import SheetCompiler.Schema

/-!
# Relations

References from table to table.
-/

set_option autoImplicit false

namespace SheetCompiler

/-- A field of one table refers to another table. It is required when the field
has no default. -/
structure Relation where
  field : String
  source : String
  target : String
  isRequired : Bool
  deriving DecidableEq, Repr

/-- The relations of a schema, in field order. -/
def Schema.relations (schema : Schema) : List Relation :=
  schema.fields.filterMap fun field =>
    field.reference?.map fun target =>
      ⟨field.name, schema.name, target.typeName, field.defaultText.isNone⟩

end SheetCompiler

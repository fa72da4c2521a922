import SheetCompiler.Schema
import SheetCompiler.Text.Columns
import SheetCompiler.Value

/-!
# Schema listings

A schema as a text table with one row for each field.
-/

set_option autoImplicit false

namespace SheetCompiler

def FieldKind.label : FieldKind → String
  | .plain => ""
  | .localized => "localized"
  | .reference target => s!"ref {target.typeName}"
  | .array _ => "array"
  | .matrix _ => "2d-array"
  | .map entry _ => s!"map [{entry}]"

namespace Schema

def listingHeader : List String :=
  ["#", "name", "type", "scope", "kind", "default", "description"]

def listingRow (field : Field) : List String :=
  [Value.displayNat field.column, field.name, field.type.display, field.scope.name,
    field.kind.label, field.defaultText.getD "", field.description]

/-- The name of the table, its namespace unless that is empty, and its fields. -/
def listing (schema : Schema) : String :=
  let title := s!"Table: {schema.name}\n"
  let space := if schema.nameSpace.isEmpty then "" else s!"Namespace: {schema.nameSpace}\n"
  title ++ space ++ Text.Columns.render listingHeader (schema.fields.map listingRow)

end Schema

end SheetCompiler

import SheetCompiler.NameSet
import SheetCompiler.Schema
import SheetCompiler.Text.Basic

/-!
# Known types

The names that a reference may target.
-/

set_option autoImplicit false

namespace SheetCompiler

structure KnownTypes where
  names : NameSet
  deriving DecidableEq, Repr

namespace KnownTypes

def empty : KnownTypes := ⟨.empty⟩

def insert (known : KnownTypes) (name : String) : KnownTypes := ⟨known.names.insert name⟩

def insertAll (known : KnownTypes) (names : List String) : KnownTypes :=
  ⟨known.names.insertAll names⟩

def ofList (names : List String) : KnownTypes := empty.insertAll names

/-- The types of every project, with or without a table. -/
def standard : KnownTypes := ofList ["Currency", "Item", "Language"]

def contains (known : KnownTypes) (name : String) : Bool := known.names.contains name

def describe (known : KnownTypes) : String :=
  if known.names.isEmpty then "(none)" else Text.joined ", " known.names.toList

end KnownTypes

/-- A reference to a type that is not known. -/
structure UnknownReference where
  field : String
  target : String
  known : String
  deriving DecidableEq, Repr

def UnknownReference.message (reference : UnknownReference) : String :=
  s!"Field '{reference.field}' references unknown type '{reference.target}'; " ++
    s!"valid types: {reference.known}"

/-- The references of a schema to unknown types, in field order. -/
def Schema.unknownReferences (schema : Schema) (known : KnownTypes) : List UnknownReference :=
  schema.fields.filterMap fun field =>
    match field.reference? with
    | some target =>
        if known.contains target.typeName then none
        else some ⟨field.name, target.typeName, known.describe⟩
    | none => none

end SheetCompiler

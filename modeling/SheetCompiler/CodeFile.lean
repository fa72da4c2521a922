import SheetCompiler.Schema
import SheetCompiler.Text.Casing

/-!
# Generated code

The record structure of a table as a source file, one for each target that sees
a field of it.
-/

set_option autoImplicit false

namespace SheetCompiler

/-- A generated file: its path below the output directory and its text. -/
structure CodeFile where
  path : String
  contents : String
  deriving DecidableEq, Repr

/-- The words that the generated language reserves. -/
def reservedWords : List String :=
  ["as", "async", "await", "break", "const", "continue", "crate", "dyn", "else", "enum",
    "extern", "false", "fn", "for", "if", "impl", "in", "let", "loop", "match", "mod", "move",
    "mut", "pub", "ref", "return", "static", "struct", "super", "trait", "true", "type",
    "unsafe", "use", "where", "while", "yield"]

/-- The identifier of a field; a reserved word is written raw. -/
def fieldIdentifier (name : String) : String :=
  let snake := Text.Casing.snake name
  if reservedWords.contains snake then "r#" ++ snake else snake

namespace CodeFile

/-- The lines of a text; a line break at the end opens no further line. -/
def textLines (text : String) : List (List Char) :=
  let lines := Text.pieces (· == '\n') text.toList
  if lines.getLast? = some [] then lines.dropLast else lines

def structName (schema : Schema) : String := Text.Casing.camel schema.name

def pathOf (schema : Schema) (target : Target) : String :=
  s!"{target.name}/{Text.Casing.snake schema.name}.rs"

/-- The comments and the declaration of one field. -/
def fieldLines (field : Field) : List String :=
  let description :=
    (textLines field.description).map fun line => "    /// " ++ String.ofList (Text.trim line)
  let reference :=
    match field.reference? with
    | some target => [s!"    /// Id of a `{target.typeName}` record."]
    | none => []
  description ++ reference ++
    [s!"    pub {fieldIdentifier field.name}: {field.type.codeName},"]

/-- The lines of the file for the fields that a target sees. -/
def fileLines (schema : Schema) (fields : List Field) : List String :=
  let imports := if fields.any Field.isMap then ["", "use std::collections::BTreeMap;"] else []
  let space :=
    if schema.nameSpace.isEmpty then [] else [s!"/// `{schema.nameSpace}::{schema.name}`"]
  [s!"// Generated by tabledef from table '{schema.name}'. Do not edit."] ++ imports ++ [""] ++
    space ++
    ["#[derive(Debug, Clone, PartialEq)]", s!"pub struct {structName schema} \x7b"] ++
    fields.flatMap fieldLines ++ ["\x7d"]

/-- The file of a target that sees at least one field. -/
def ofTarget? (schema : Schema) (target : Target) : Option CodeFile :=
  let fields := schema.fields.filter fun field => field.scope.includes target
  if fields.isEmpty then none
  else
    some
      { path := pathOf schema target
        contents := String.join ((fileLines schema fields).map fun line => line ++ "\n") }

/-- The generated files of a table, the client's first. -/
def ofSchema (schema : Schema) : List CodeFile := Target.all.filterMap (ofTarget? schema)

end CodeFile

end SheetCompiler

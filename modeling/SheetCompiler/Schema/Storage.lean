import SheetCompiler.Document.Decoding
import SheetCompiler.Document.Json.Reader
import SheetCompiler.Document.Json.Writer
import SheetCompiler.Schema

/-!
# Stored schemas

Schemas as JSON documents: writing one out and reading it back. Numbers of rows
and columns are natural numbers of 64 bits.
-/

set_option autoImplicit false

namespace SheetCompiler

namespace BaseType

def toDocument (base : BaseType) : Document := .string base.schemaName

def ofSchemaName? (name : String) : Option BaseType :=
  all.find? fun base => base.schemaName == name

def ofDocument? (document : Document) : Option BaseType := document.constant? ofSchemaName?

end BaseType

namespace Scope

def schemaName : Scope → String
  | .excluded => "None"
  | .clientOnly => "ClientOnly"
  | .serverOnly => "ServerOnly"
  | .all => "All"

def ofSchemaName? (name : String) : Option Scope :=
  [excluded, clientOnly, serverOnly, .all].find? fun scope => scope.schemaName == name

def ofDocument? (document : Document) : Option Scope := document.constant? ofSchemaName?

end Scope

def optionalDocument {α : Type} (encode : α → Document) : Option α → Document
  | some value => encode value
  | none => .null

def natDocument (n : Nat) : Document := .integer n

namespace FieldType

def pairDocument (key value : BaseType) : Document :=
  .object [("key", key.toDocument), ("value", value.toDocument)]

def toDocument : FieldType → Document
  | .scalar base => .object [("Scalar", base.toDocument)]
  | .array base => .object [("Array", base.toDocument)]
  | .matrix base => .object [("Array2D", base.toDocument)]
  | .map key value => .object [("Map", pairDocument key value)]
  | .pairs key value => .object [("KeyValuePairs", pairDocument key value)]

def pairOfDocument? (document : Document) : Option (BaseType × BaseType) := do
  let names := ["key", "value"]
  let parts ← Document.Parts.ofDocument? .json names document
  let key ← parts.required? names "key" BaseType.ofDocument?
  let value ← parts.required? names "value" BaseType.ofDocument?
  return (key, value)

def ofDocument? (document : Document) : Option FieldType := do
  let (name, content) ← document.alternative?
  let content ← content
  match name with
  | "Scalar" => (BaseType.ofDocument? content).map .scalar
  | "Array" => (BaseType.ofDocument? content).map .array
  | "Array2D" => (BaseType.ofDocument? content).map .matrix
  | "Map" => (pairOfDocument? content).map fun (key, value) => .map key value
  | "KeyValuePairs" => (pairOfDocument? content).map fun (key, value) => .pairs key value
  | _ => none

end FieldType

namespace ShapeStats

def partNames : List String := ["total_rows", "valid_rows", "min_columns", "max_columns"]

def toDocument (stats : ShapeStats) : Document :=
  .object
    [("total_rows", natDocument stats.totalRows),
      ("valid_rows", natDocument stats.validRows),
      ("min_columns", optionalDocument natDocument stats.minColumns),
      ("max_columns", optionalDocument natDocument stats.maxColumns)]

def ofDocument? (document : Document) : Option ShapeStats := do
  let parts ← Document.Parts.ofDocument? .json partNames document
  let totalRows ← parts.required? partNames "total_rows" Document.natural?
  let validRows ← parts.required? partNames "valid_rows" Document.natural?
  let minColumns ← parts.nullable? partNames "min_columns" Document.natural?
  let maxColumns ← parts.nullable? partNames "max_columns" Document.natural?
  return { totalRows, validRows, minColumns, maxColumns }

end ShapeStats

namespace ReferenceTarget

def partNames : List String := ["type_name", "resolved", "stats"]

/-- Absent counts are left out. -/
def toDocument (target : ReferenceTarget) : Document :=
  let stats :=
    match target.stats with
    | some stats => [("stats", stats.toDocument)]
    | none => []
  .object ([("type_name", .string target.typeName), ("resolved", .bool target.resolved)] ++ stats)

def ofDocument? (document : Document) : Option ReferenceTarget := do
  let parts ← Document.Parts.ofDocument? .json partNames document
  let typeName ← parts.required? partNames "type_name" Document.text?
  let resolved ← parts.required? partNames "resolved" Document.bool?
  let stats ← parts.defaulted? partNames "stats" none (Document.optional? ShapeStats.ofDocument?)
  return { typeName, resolved, stats }

end ReferenceTarget

namespace FieldKind

def toDocument : FieldKind → Document
  | .plain => .string "Plain"
  | .localized => .string "Localized"
  | .reference target => .object [("Reference", target.toDocument)]
  | .array stats => .object [("Array", stats.toDocument)]
  | .matrix stats => .object [("Array2D", stats.toDocument)]
  | .map entry stats =>
      .object [("Map", .object [("entry", .string entry), ("stats", stats.toDocument)])]

def mapOfDocument? (document : Document) : Option FieldKind := do
  let names := ["entry", "stats"]
  let parts ← Document.Parts.ofDocument? .json names document
  let entry ← parts.required? names "entry" Document.text?
  let stats ← parts.required? names "stats" ShapeStats.ofDocument?
  return .map entry stats

def ofDocument? (document : Document) : Option FieldKind := do
  let (name, content) ← document.alternative?
  match name, content with
  | "Plain", none => some .plain
  | "Localized", none => some .localized
  | "Plain", some content => if content.isNull then some .plain else none
  | "Localized", some content => if content.isNull then some .localized else none
  | "Reference", some content => (ReferenceTarget.ofDocument? content).map .reference
  | "Array", some content => (ShapeStats.ofDocument? content).map .array
  | "Array2D", some content => (ShapeStats.ofDocument? content).map .matrix
  | "Map", some content => mapOfDocument? content
  | _, _ => none

end FieldKind

namespace Field

def partNames : List String :=
  ["name", "column", "field_type", "declared_type", "scope", "kind", "default_value",
    "description", "original_header"]

def toDocument (field : Field) : Document :=
  .object
    [("name", .string field.name),
      ("column", natDocument field.column),
      ("field_type", field.type.toDocument),
      ("declared_type", .string field.declared),
      ("scope", .string field.scope.schemaName),
      ("kind", field.kind.toDocument),
      ("default_value", optionalDocument .string field.defaultText),
      ("description", .string field.description),
      ("original_header", .string field.header)]

def ofDocument? (document : Document) : Option Field := do
  let parts ← Document.Parts.ofDocument? .json partNames document
  let name ← parts.required? partNames "name" Document.text?
  let column ← parts.required? partNames "column" Document.natural?
  let type ← parts.required? partNames "field_type" FieldType.ofDocument?
  let declared ← parts.required? partNames "declared_type" Document.text?
  let scope ← parts.required? partNames "scope" Scope.ofDocument?
  let kind ← parts.required? partNames "kind" FieldKind.ofDocument?
  let defaultText ← parts.nullable? partNames "default_value" Document.text?
  let description ← parts.required? partNames "description" Document.text?
  let header ← parts.required? partNames "original_header" Document.text?
  return { name, column, type, declared, scope, kind, defaultText, description, header }

end Field

namespace SchemaMetadata

def partNames : List String := ["localized_fields", "localization_keys"]

def toDocument (metadata : SchemaMetadata) : Document :=
  .object
    [("localized_fields", .array (metadata.localizedFields.map .string)),
      ("localization_keys", .array (metadata.localizationKeys.map .string))]

def ofDocument? (document : Document) : Option SchemaMetadata := do
  let parts ← Document.Parts.ofDocument? .json partNames document
  let texts := Document.list? Document.text?
  let localizedFields ← parts.required? partNames "localized_fields" texts
  let localizationKeys ← parts.required? partNames "localization_keys" texts
  return { localizedFields, localizationKeys }

end SchemaMetadata

namespace Schema

def partNames : List String := ["name", "namespace", "fields", "metadata"]

def toDocument (schema : Schema) : Document :=
  .object
    [("name", .string schema.name),
      ("namespace", .string schema.nameSpace),
      ("fields", .array (schema.fields.map Field.toDocument)),
      ("metadata", schema.metadata.toDocument)]

/-- Missing metadata are empty. -/
def ofDocument? (document : Document) : Option Schema := do
  let parts ← Document.Parts.ofDocument? .json partNames document
  let name ← parts.required? partNames "name" Document.text?
  let nameSpace ← parts.required? partNames "namespace" Document.text?
  let fields ← parts.required? partNames "fields" (Document.list? Field.ofDocument?)
  let metadata ← parts.defaulted? partNames "metadata" .empty SchemaMetadata.ofDocument?
  return { name, nameSpace, fields, metadata }

/-- The stored form of a schema. -/
def toJson (schema : Schema) : String := Json.render schema.toDocument

/-- Reads a stored schema. -/
def ofJson? (text : String) : Option Schema := (Json.read? text).bind ofDocument?

end Schema

end SheetCompiler

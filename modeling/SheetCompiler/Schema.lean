import SheetCompiler.FieldType
import SheetCompiler.Scope

/-!
# Schemas

The resolved structure of one table: its fields with their types and kinds.
-/

set_option autoImplicit false

namespace SheetCompiler

/-- Counts over the data cells of a structured column, and the least and greatest
number of elements seen. -/
structure ShapeStats where
  totalRows : Nat
  validRows : Nat
  minColumns : Option Nat
  maxColumns : Option Nat
  deriving DecidableEq, Repr

namespace ShapeStats

def empty : ShapeStats := ⟨0, 0, none, none⟩

/-- Adds one width to the bounds. -/
def addWidth (stats : ShapeStats) (width : Nat) : ShapeStats :=
  { stats with
    minColumns := some ((stats.minColumns.map (min · width)).getD width)
    maxColumns := some ((stats.maxColumns.map (max · width)).getD width) }

/-- Counts one cell with the widths found in it. -/
def record (stats : ShapeStats) (valid : Bool) (widths : List Nat) : ShapeStats :=
  let counted :=
    { stats with
      totalRows := stats.totalRows + 1
      validRows := stats.validRows + if valid then 1 else 0 }
  widths.foldl addWidth counted

/-- Whether two recorded widths differ. -/
def isRagged (stats : ShapeStats) : Bool := stats.minColumns != stats.maxColumns

end ShapeStats

/-- The table a field refers to. Only structured references count shapes. -/
structure ReferenceTarget where
  typeName : String
  resolved : Bool
  stats : Option ShapeStats
  deriving DecidableEq, Repr

/-- How a field is treated, beyond its type. -/
inductive FieldKind where
  | plain
  | localized
  | reference (target : ReferenceTarget)
  | array (stats : ShapeStats)
  | matrix (stats : ShapeStats)
  | map (entry : String) (stats : ShapeStats)
  deriving DecidableEq, Repr

namespace FieldKind

/-- The name of the entry type of map fields. -/
def mapEntry : String := "K_V_Pair"

def stats? : FieldKind → Option ShapeStats
  | array stats | matrix stats | map _ stats => some stats
  | reference target => target.stats
  | plain | localized => none

/-- Replaces the shape counts of a kind that has them. -/
def updateStats (update : ShapeStats → ShapeStats) : FieldKind → FieldKind
  | array stats => array (update stats)
  | matrix stats => matrix (update stats)
  | map entry stats => map entry (update stats)
  | reference target => reference { target with stats := target.stats.map update }
  | kind => kind

end FieldKind

/-- One column of a table. -/
structure Field where
  name : String
  column : Nat
  type : FieldType
  declared : String
  scope : Scope
  kind : FieldKind
  defaultText : Option String
  description : String
  header : String
  deriving DecidableEq, Repr

namespace Field

def isArray (field : Field) : Bool :=
  match field.type with
  | .array _ | .pairs .. => true
  | _ => false

def isMatrix (field : Field) : Bool :=
  match field.type with
  | .matrix _ => true
  | _ => false

def isMap (field : Field) : Bool :=
  match field.type with
  | .map .. => true
  | _ => false

def reference? (field : Field) : Option ReferenceTarget :=
  match field.kind with
  | .reference target => some target
  | _ => none

def isReference (field : Field) : Bool := field.reference?.isSome

def isLocalized (field : Field) : Bool := field.kind == .localized

def stats? (field : Field) : Option ShapeStats := field.kind.stats?

end Field

/-- What localization has done to a table. -/
structure SchemaMetadata where
  localizedFields : List String
  localizationKeys : List String
  deriving DecidableEq, Repr

def SchemaMetadata.empty : SchemaMetadata := ⟨[], []⟩

structure Schema where
  name : String
  nameSpace : String
  fields : List Field
  metadata : SchemaMetadata
  deriving DecidableEq, Repr

namespace Schema

/-- The first field of a name. -/
def field? (schema : Schema) (name : String) : Option Field :=
  schema.fields.find? fun field => field.name == name

def fieldNames (schema : Schema) : List String := schema.fields.map (·.name)

/-- Changes the first field of a name. -/
def modifyField (schema : Schema) (name : String) (change : Field → Field) : Schema :=
  match schema.fields.findIdx? fun field => field.name == name with
  | some index => { schema with fields := schema.fields.modify index change }
  | none => schema

def referenceFields (schema : Schema) : List Field := schema.fields.filter Field.isReference

/-- The names that occur more than once, each one once, in the order of their
second occurrence. -/
def duplicateNames (schema : Schema) : List String :=
  go [] [] schema.fieldNames
where
  go (seen duplicates : List String) : List String → List String
    | [] => duplicates.reverse
    | name :: names =>
        if seen.contains name && !duplicates.contains name then
          go seen (name :: duplicates) names
        else go (name :: seen) duplicates names

/-- The number of fields in each scope that has one, in the order of the names
of the scopes. -/
def scopeSummary (schema : Schema) : List (String × Nat) :=
  [Scope.all, .clientOnly, .excluded, .serverOnly].filterMap fun scope =>
    let count := schema.fields.countP fun field => field.scope == scope
    if count = 0 then none else some (scope.name, count)

end Schema

end SheetCompiler

import SheetCompiler.FieldType.Declaration
import SheetCompiler.Header
import SheetCompiler.Schema
import SheetCompiler.Sheet

/-!
# Resolving schemas

From the header rows of a sheet to its schema. Columns without a name and
excluded columns are skipped. Only a missing header block is an error; every
other problem becomes a diagnostic.
-/

set_option autoImplicit false

namespace SheetCompiler

/-- The header block is incomplete. -/
structure HeaderShortage where
  found : Nat
  deriving DecidableEq, Repr

def HeaderShortage.message (shortage : HeaderShortage) : String :=
  s!"Table must contain at least {Sheet.headerRows} header rows, found {shortage.found}"

/-- A column with a name, before it becomes a field. -/
structure Column where
  index : Nat
  header : Header
  declared : String
  resolution : FieldType.Resolution
  description : String
  defaultText : String
  deriving DecidableEq, Repr

namespace Column

def name (column : Column) : String := column.header.name

def diagnostics (column : Column) : List Diagnostic :=
  column.header.diagnostics ++ column.resolution.diagnostics

def ofSheet (sheet : Sheet) (index : Nat) : Column :=
  let declared := Text.trimmed (sheet.cell 1 index)
  { index
    header := Header.ofText (sheet.cell 0 index)
    declared
    resolution := FieldType.resolve declared
    description := Text.trimmed (sheet.cell 2 index)
    defaultText := Text.trimmed (sheet.cell 3 index) }

def isUnnamed (column : Column) : Bool := column.header.isEmpty

def isExcluded (column : Column) : Bool := !column.isUnnamed && column.header.scope.isExcluded

def isKept (column : Column) : Bool := !column.isUnnamed && !column.isExcluded

/-- The kind of the field of a column, with what the localization tag lacks. -/
def kind (column : Column) : FieldKind × List Diagnostic :=
  let type := column.resolution.type
  match column.header.referenceTarget with
  | some target =>
      let stats := if type.isScalar then none else some ShapeStats.empty
      (.reference ⟨target, false, stats⟩, [])
  | none =>
      match type with
      | .array _ | .pairs .. => (.array .empty, [])
      | .matrix _ => (.matrix .empty, [])
      | .map .. => (.map FieldKind.mapEntry .empty, [])
      | .scalar base =>
          if !column.header.localized then (.plain, [])
          else if base = .string then (.localized, [])
          else
            let diagnostic := Diagnostic.ofCause (.localizedScalar column.name type)
            (.plain, [diagnostic.atColumn column.index])

/-- The field of a column with its diagnostics. The values of a reference are
ids, whatever base type is declared. -/
def toField (column : Column) : Field × List Diagnostic :=
  let (kind, scalarDiagnostics) := column.kind
  let declaredType := column.resolution.type
  let type :=
    match kind with
    | .reference _ => declaredType.withElement .int32
    | _ => declaredType
  let structureDiagnostics :=
    match kind with
    | .localized | .plain => []
    | _ =>
        if column.header.localized then
          let diagnostic := Diagnostic.ofCause (.localizedStructure column.name type)
          [diagnostic.atColumn column.index]
        else []
  let field : Field :=
    { name := column.name
      column := column.index
      type
      declared := column.declared
      scope := column.header.scope
      kind
      defaultText := if column.defaultText.isEmpty then none else some column.defaultText
      description := column.description
      header := column.header.raw }
  (field,
    column.diagnostics.map (Diagnostic.atColumn column.index) ++
      scalarDiagnostics ++ structureDiagnostics)

end Column

/-- The columns of a sheet that become fields, and how many do not. -/
structure HeaderBlock where
  columns : List Column
  unnamedCount : Nat
  excludedCount : Nat
  deriving DecidableEq, Repr

def HeaderBlock.ofSheet (sheet : Sheet) : Except HeaderShortage HeaderBlock :=
  if sheet.hasHeader then
    let columns := (List.range sheet.columnCount).map (Column.ofSheet sheet)
    .ok
      { columns := columns.filter Column.isKept
        unnamedCount := columns.countP Column.isUnnamed
        excludedCount := columns.countP Column.isExcluded }
  else .error ⟨sheet.rowCount⟩

/-- Resolves the header block of a sheet into a schema and its diagnostics. -/
def Schema.ofSheet (sheet : Sheet) (nameSpace : String) :
    Except HeaderShortage (Schema × List Diagnostic) := do
  let block ← HeaderBlock.ofSheet sheet
  let resolved := block.columns.map Column.toField
  let fields := resolved.map (·.1)
  let schema : Schema :=
    { name := sheet.name
      nameSpace
      fields
      metadata := ⟨(fields.filter Field.isLocalized).map (·.name), []⟩ }
  return (schema, resolved.flatMap (·.2))

end SheetCompiler

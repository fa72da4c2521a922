import SheetCompiler.Schema
import SheetCompiler.Sheet
import SheetCompiler.StructuredCell

/-!
# Normalization

Rewriting the data cells of a field in their normalized form. A blank cell takes
the default of its column. The counts of the field and the faults of its cells
are collected on the way; a faulty cell never stops the others.
-/

set_option autoImplicit false

namespace SheetCompiler

/-- A fault in one cell of a sheet. -/
structure CellError where
  field : String
  row : Nat
  column : Nat
  value : String
  fault : CellFault
  deriving DecidableEq, Repr

def CellError.message (error : CellError) : String := error.fault.message

namespace Field

/-- The text that a cell stands for. -/
def sourceText (field : Field) (text : String) : String :=
  match field.defaultText with
  | some default => if Text.isBlankText text then default else text
  | none => text

/-- The report on one cell of the field. -/
def reportOn (field : Field) (text : String) : CellReport :=
  CellReport.ofCell field.type (field.sourceText text)

/-- The errors of one cell of the field. -/
def cellErrors (field : Field) (row : Nat) (text : String) : List CellError :=
  (field.reportOn text).faults.map fun fault =>
    ⟨field.name, row, field.column, field.sourceText text, fault⟩

/-- The field with the counts of the given cells added. -/
def countCells (field : Field) (texts : List String) : Field :=
  let update (stats : ShapeStats) : ShapeStats :=
    texts.foldl (fun stats text =>
      let report := field.reportOn text
      stats.record report.isValid report.widths) stats
  { field with kind := field.kind.updateStats update }

end Field

namespace Sheet

/-- The sheet with each data cell of a field in normalized form. -/
def normalizeColumn (sheet : Sheet) (field : Field) : Sheet :=
  (sheet.columnTexts field.column).foldl (fun sheet (row, text) =>
    sheet.setCell row field.column (field.reportOn text).normalized) sheet

/-- Normalizes the cells of one field: the field with its counts, the new sheet
and the errors of the cells in row order. -/
def normalizeField (sheet : Sheet) (field : Field) : Field × Sheet × List CellError :=
  let cells := sheet.columnTexts field.column
  (field.countCells (cells.map (·.2)), sheet.normalizeColumn field,
    cells.flatMap fun (row, text) => field.cellErrors row text)

/-- Normalizes the cells of several fields, one after the other. -/
def normalizeFields (sheet : Sheet) : List Field → List Field × Sheet × List CellError
  | [] => ([], sheet, [])
  | field :: fields =>
      let (field, sheet, errors) := sheet.normalizeField field
      let (fields, sheet, laterErrors) := sheet.normalizeFields fields
      (field :: fields, sheet, errors ++ laterErrors)

end Sheet

end SheetCompiler

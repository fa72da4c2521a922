import Mathlib.Data.List.Perm.Basic
import SheetCompiler.Proofs.Schema.Kinds

/-!
# Normalization cell by cell

What becomes of a data cell depends on its text and its field alone. The fields of a sheet can
be normalized in any order: the sheet, the counts and the errors are the same.
-/

set_option autoImplicit false

namespace SheetCompiler

namespace Sheet

variable {sheet : Sheet} {fields order : List Field} {field : Field} {row column : Nat}

/-- All rows are as wide as the first. -/
def IsRectangular (sheet : Sheet) : Prop := ∀ cells ∈ sheet.rows, cells.length = sheet.columnCount

/-- The text that a field reads in a row: its default where the cell is blank. -/
def sourceIn (sheet : Sheet) (field : Field) (row : Nat) : String :=
  let text := sheet.cell row field.column
  if Text.isBlankText text then field.defaultText.getD text else text

def reportIn (sheet : Sheet) (field : Field) (row : Nat) : CellReport :=
  CellReport.ofCell field.type (sheet.sourceIn field row)

/-- The errors of a field, row by row. -/
def errorsOf (sheet : Sheet) (field : Field) : List CellError :=
  sheet.dataIndices.flatMap fun row => (sheet.reportIn field row).faults.map fun fault =>
    ⟨field.name, row, field.column, sheet.sourceIn field row, fault⟩

/-- The widths that are recorded for a field. -/
def widthsIn (sheet : Sheet) (field : Field) : List Nat :=
  sheet.dataIndices.flatMap fun row => (sheet.reportIn field row).widths

/-- Counts over the data cells of a field. -/
structure IsCountOf (sheet : Sheet) (field : Field) (stats : ShapeStats) : Prop where
  total : stats.totalRows = sheet.dataRowCount
  valid : stats.validRows =
    sheet.dataIndices.countP fun row => (sheet.reportIn field row).faults.isEmpty
  least : stats.minColumns = (sheet.widthsIn field).min?
  greatest : stats.maxColumns = (sheet.widthsIn field).max?
  ragged : stats.isRagged = true ↔
    ∃ width ∈ sheet.widthsIn field, ∃ other ∈ sheet.widthsIn field, width ≠ other

/-- The sheet in which each data cell of some fields is in normalized form, and nothing else
has changed. -/
structure IsNormalForm (sheet : Sheet) (fields : List Field) (normal : Sheet) : Prop where
  name : normal.name = sheet.name
  rowCount : normal.rowCount = sheet.rowCount
  header : ∀ row column, row < headerRows → normal.cell? row column = sheet.cell? row column
  others : ∀ row column, column ∉ fields.map (·.column) →
    normal.cell? row column = sheet.cell? row column
  data : ∀ field ∈ fields, ∀ row ∈ sheet.dataIndices,
    normal.cell? row field.column = some (sheet.reportIn field row).normalized

theorem sourceText_cell (sheet : Sheet) (field : Field) (row : Nat) :
    field.sourceText (sheet.cell row field.column) = sheet.sourceIn field row := by
  unfold Field.sourceText sourceIn
  cases field.defaultText with
  | some default => rfl
  | none => simp

theorem reportOn_cell (sheet : Sheet) (field : Field) (row : Nat) :
    field.reportOn (sheet.cell row field.column) = sheet.reportIn field row := by
  rw [Field.reportOn, sourceText_cell, reportIn]

theorem columnTexts_eq_dataIndices (sheet : Sheet) (column : Nat) :
    sheet.columnTexts column =
      sheet.dataIndices.map fun row => (row, sheet.cell row column) := by
  rw [columnTexts_eq_range, dataIndices, List.range'_eq_map_range, List.map_map]
  rfl

theorem map_reportOn_dataIndices (sheet : Sheet) (field : Field) :
    (sheet.dataIndices.map fun row => sheet.cell row field.column).map field.reportOn =
      sheet.dataIndices.map (sheet.reportIn field) := by
  rw [List.map_map]
  exact List.map_congr_left fun row _ => reportOn_cell sheet field row

theorem cell?_eq_some (rectangular : sheet.IsRectangular) (inside : row < sheet.rowCount)
    (within : column < sheet.columnCount) :
    sheet.cell? row column = some (sheet.cell row column) := by
  have width := rectangular sheet.rows[row] (List.getElem_mem inside)
  have wide : column < sheet.rows[row].length := width ▸ within
  unfold cell cell?
  rw [List.getElem?_eq_getElem inside, Option.bind_some, List.getElem?_eq_getElem wide]
  rfl

/-! ## One order -/

theorem isNormalForm_normalizeFields (rectangular : sheet.IsRectangular)
    (distinct : (fields.map (·.column)).Nodup)
    (within : ∀ field ∈ fields, field.column < sheet.columnCount) :
    sheet.IsNormalForm fields (sheet.normalizeFields fields).2.1 := by
  have agree := agreeOff_normalizeFields sheet fields
  refine ⟨agree.name, agree.rowCount, fun row column above => ?_, agree.cell?, ?_⟩
  · exact cell?_eq_of_header (take_normalizeFields sheet fields) above
  · intro field member row data
    obtain ⟨data, inside⟩ := mem_dataIndices.mp data
    rw [cell?_normalizeFields sheet distinct member data,
      cell?_eq_some rectangular inside (within field member), Option.map_some, reportOn_cell]

theorem errors_eq_errorsOf (sheet : Sheet) (distinct : (fields.map (·.column)).Nodup) :
    (sheet.normalizeFields fields).2.2 = fields.flatMap sheet.errorsOf := by
  rw [errors_normalizeFields sheet distinct]
  refine List.flatMap_congr fun field _ => ?_
  rw [columnTexts_eq_dataIndices, List.flatMap_map]
  refine List.flatMap_congr fun row _ => ?_
  change field.cellErrors row (sheet.cell row field.column) = _
  rw [Field.cellErrors, reportOn_cell, sourceText_cell]

theorem fields_eq_countCells (sheet : Sheet) (distinct : (fields.map (·.column)).Nodup) :
    (sheet.normalizeFields fields).1 =
      fields.map fun field =>
        field.countCells (sheet.dataIndices.map fun row => sheet.cell row field.column) := by
  rw [counts_normalizeFields sheet distinct]
  refine List.map_congr_left fun field _ => ?_
  rw [columnTexts_eq_dataIndices, List.map_map]
  rfl

/-! ## Any order -/

theorem sheet_normalizeFields_perm (sheet : Sheet) (distinct : (fields.map (·.column)).Nodup)
    (perm : fields.Perm order) :
    (sheet.normalizeFields order).2.1 = (sheet.normalizeFields fields).2.1 := by
  have columns := perm.map (·.column)
  have agree := agreeOff_normalizeFields sheet fields
  have reordered := agreeOff_normalizeFields sheet order
  refine eq_of_cell? (reordered.name.trans agree.name.symm)
    (reordered.rowCount.trans agree.rowCount.symm) fun row column => ?_
  by_cases above : row < headerRows
  · rw [cell?_eq_of_header (take_normalizeFields sheet order) above,
      cell?_eq_of_header (take_normalizeFields sheet fields) above]
  · by_cases touched : column ∈ fields.map (·.column)
    · obtain ⟨field, member, rfl⟩ := List.mem_map.mp touched
      have data := Nat.not_lt.mp above
      rw [cell?_normalizeFields sheet (columns.nodup_iff.mp distinct) (perm.mem_iff.mp member) data,
        cell?_normalizeFields sheet distinct member data]
    · rw [agree.cell? row column touched,
        reordered.cell? row column fun member => touched (columns.mem_iff.mpr member)]

theorem normalizeFields_perm (sheet : Sheet) (distinct : (fields.map (·.column)).Nodup)
    (perm : fields.Perm order) :
    sheet.normalizeFields order =
      (order.map fun field =>
          field.countCells (sheet.dataIndices.map fun row => sheet.cell row field.column),
        (sheet.normalizeFields fields).2.1, order.flatMap sheet.errorsOf) := by
  have reordered := (perm.map (·.column)).nodup_iff.mp distinct
  rw [← fields_eq_countCells sheet reordered, ← errors_eq_errorsOf sheet reordered,
    ← sheet_normalizeFields_perm sheet distinct perm]

/-! ## Counts -/

theorem isCountOf_of_counts {stats : ShapeStats}
    (counts : stats.Counts (sheet.dataIndices.map (sheet.reportIn field))) :
    sheet.IsCountOf field stats := by
  have widths : (sheet.dataIndices.map (sheet.reportIn field)).flatMap (·.widths) =
      sheet.widthsIn field := List.flatMap_map ..
  refine ⟨?_, ?_, ?_, ?_, ?_⟩
  · rw [counts.total, List.length_map, dataIndices, List.length_range']
  · rw [counts.valid, List.countP_map]
    rfl
  · rw [counts.least, widths]
  · rw [counts.greatest, widths]
  · rw [counts.isRagged_iff, widths]

theorem isCountOf_countCells {stats : ShapeStats}
    (fresh : ∀ start, field.stats? = some start → start = .empty)
    (counted : (field.countCells (sheet.dataIndices.map fun row =>
      sheet.cell row field.column)).stats? = some stats) :
    sheet.IsCountOf field stats := by
  have counts := Field.counts_countCells fresh counted
  rw [map_reportOn_dataIndices] at counts
  exact isCountOf_of_counts counts

end Sheet

/-! ## Tables -/

/-- In whatever order the fields of a table are normalized, the sheet is the same, and each
field counts its own data cells and reports their errors row by row. -/
theorem Sheet.normalizeFields_unordered {sheet : Sheet} (rectangular : sheet.IsRectangular)
    (headed : 4 ≤ sheet.rowCount) (nameSpace : String) :
    ∃ schema diagnostics, Schema.ofSheet sheet nameSpace = .ok (schema, diagnostics) ∧
      ∃ (counted : Field → Field) (normal : Sheet),
        (∀ order, schema.fields.Perm order →
          sheet.normalizeFields order =
            (order.map counted, normal, order.flatMap sheet.errorsOf)) ∧
        sheet.IsNormalForm schema.fields normal ∧
        ∀ field ∈ schema.fields, (counted field).outline = field.outline ∧
          (counted field).stats?.isSome = field.stats?.isSome ∧
          ∀ stats, (counted field).stats? = some stats → sheet.IsCountOf field stats := by
  obtain ⟨schema, diagnostics, resolves⟩ := Schema.exists_ofSheet nameSpace (decide_eq_true headed)
  have distinct := Schema.columns_nodup resolves
  refine ⟨schema, diagnostics, resolves, _, _,
    fun order perm => sheet.normalizeFields_perm distinct perm,
    isNormalForm_normalizeFields rectangular distinct fun field member =>
      Schema.column_lt_of_mem resolves member, fun field member => ⟨?_, ?_, fun stats => ?_⟩⟩
  · exact field.outline_countCells _
  · rw [Field.stats?_countCells, Option.isSome_map]
  · exact isCountOf_countCells fun _ starts => Schema.stats?_ofSheet resolves member starts

/-- A default, a cell that is normalized to another text and cells with errors, next to a
column that is no field. -/
theorem Sheet.normalizeFields_unordered_mixture :
    let sheet : Sheet := ⟨"Item",
      [["Id", "Drops", "Note@PM", "Sizes"], ["int", "map<string,int>", "string", "[int]"],
        ["", "", "", ""], ["", "", "", "1,2"],
        [" 7 ", "a=1;b", " x ", ""], ["one", "", "y", "3, ,4,5"]]⟩
    sheet.IsRectangular ∧ 4 ≤ sheet.rowCount ∧
      ∃ schema diagnostics, Schema.ofSheet sheet "Game" = .ok (schema, diagnostics) ∧
        (sheet.normalizeFields schema.fields.reverse).2.1 =
          (sheet.normalizeFields schema.fields).2.1 ∧
        (sheet.normalizeFields schema.fields.reverse).2.2 =
          schema.fields.reverse.flatMap sheet.errorsOf := by
  intro sheet
  have rectangular : sheet.IsRectangular := by
    unfold IsRectangular
    decide
  have headed : 4 ≤ sheet.rowCount := by decide
  obtain ⟨schema, diagnostics, resolves, counted, normal, orders, -, -⟩ :=
    normalizeFields_unordered rectangular headed "Game"
  refine ⟨rectangular, headed, schema, diagnostics, resolves, ?_, ?_⟩
  · rw [orders _ (.refl _), orders _ (List.reverse_perm _).symm]
  · rw [orders _ (List.reverse_perm _).symm]

end SheetCompiler

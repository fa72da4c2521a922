import Mathlib.Data.List.Forall2
import SheetCompiler.Proofs.Schema.Resolved
import SheetCompiler.Proofs.Schema.Tags
import SheetCompiler.Proofs.Sheet.Normalization
import SheetCompiler.Proofs.Sheet.Writes
import SheetCompiler.Proofs.Text.Pieces
import SheetCompiler.Record
import SheetCompiler.Validation.Rule

/-!
# Skipped columns

No field is read off a column without a name or with the exclusion tag. What such a column
holds below the header can only be seen in whether a row is blank: sheets that agree in
everything else have the same schema, and agree outside of these columns once they are
cleaned and normalized.
-/

set_option autoImplicit false

namespace SheetCompiler

/-! ## Headers -/

namespace Header

theorem ofText_trimmed (cell : String) : ofText (Text.trimmed cell) = ofText cell := by
  have same : Text.trim (Text.trimmed cell).toList = Text.trim cell.toList := by
    rw [Text.trimmed, String.toList_ofList, Text.trim_trim]
  unfold ofText
  rw [same]

theorem isEmpty_ofText_of_isBlank {cell : String} (blank : Text.isBlankText cell = true) :
    (ofText cell).isEmpty = true := by
  have none : Text.trim cell.toList = [] := Text.trim_eq_nil_iff.mpr blank
  unfold ofText
  rw [none]
  rfl

/-- One exclusion tag wins over all other tags. -/
theorem isExcluded_ofText {cell : String} {tag : List Char}
    (listed : tag ∈ (parts (Text.trim cell.toList)).2) (excludes : Tag.ofChars tag = .exclude) :
    (ofText cell).scope.isExcluded = true := by
  unfold ofText
  dsimp only
  rw [Reading.foldl_addTag, if_pos ((Reading.excluded_ofTags_iff _ _).mpr ⟨tag, listed, excludes⟩)]
  rfl

end Header

namespace Sheet

variable {sheet left right : Sheet} {row column : Nat}

/-- Columns whose header has no name or carries the exclusion tag. -/
def IsSkipped (sheet : Sheet) (column : Nat) : Prop :=
  (Header.ofText (sheet.cell 0 column)).isEmpty = true ∨
    ∃ tag ∈ (Header.parts (Text.trim (sheet.cell 0 column).toList)).2, Tag.ofChars tag = .exclude

theorem index_ofSheet (sheet : Sheet) (column : Nat) :
    (Column.ofSheet sheet column).index = column := rfl

theorem header_ofSheet (sheet : Sheet) (column : Nat) :
    (Column.ofSheet sheet column).header = Header.ofText (sheet.cell 0 column) := rfl

theorem isKept_of_isSkipped (skipped : sheet.IsSkipped column) :
    (Column.ofSheet sheet column).isKept = false := by
  unfold Column.isKept Column.isExcluded Column.isUnnamed
  rw [header_ofSheet]
  rcases skipped with empty | ⟨tag, listed, excludes⟩
  · rw [empty]
    rfl
  · rw [Header.isExcluded_ofText listed excludes, Bool.and_true, Bool.not_not, Bool.not_and_self]

/-! ## Cleaning -/

theorem isBlankRow_map_trimmed (cells : List String) :
    isBlankRow (cells.map Text.trimmed) = isBlankRow cells := by
  have same : Text.isBlankText ∘ Text.trimmed = Text.isBlankText := by
    funext text
    rw [Function.comp_apply, Text.isBlankText_trimmed]
  rw [isBlankRow, List.all_map, same, isBlankRow]

theorem cell_trimCells (sheet : Sheet) (row column : Nat) :
    sheet.trimCells.cell row column = Text.trimmed (sheet.cell row column) := by
  change ((sheet.mapCells Text.trimmed).cell? row column).getD "" =
    Text.trimmed ((sheet.cell? row column).getD "")
  rw [cell?_mapCells]
  cases sheet.cell? row column <;> rfl

theorem take_dropBlankRows (sheet : Sheet) :
    sheet.dropBlankRows.rows.take headerRows = sheet.rows.take headerRows :=
  take_headerRows_append sheet.rows (List.filter fun row => !isBlankRow row) rfl

theorem cell?_eq_of_header (header : right.rows.take headerRows = left.rows.take headerRows)
    (above : row < headerRows) : right.cell? row column = left.cell? row column := by
  have rows := congrArg (fun rows : List (List String) => rows[row]?) header
  rw [List.getElem?_take_of_lt above, List.getElem?_take_of_lt above] at rows
  rw [cell?, rows, cell?]

theorem cell_eq_of_header (header : right.rows.take headerRows = left.rows.take headerRows)
    (above : row < headerRows) : right.cell row column = left.cell row column :=
  congrArg (Option.getD · "") (cell?_eq_of_header header above)

/-- Cleaning does not change what is read off a column. -/
theorem ofSheet_cleaned (sheet : Sheet) (column : Nat) :
    Column.ofSheet sheet.trimCells.dropBlankRows column = Column.ofSheet sheet column := by
  have cells (row : Nat) (above : row < headerRows) :
      sheet.trimCells.dropBlankRows.cell row column = Text.trimmed (sheet.cell row column) :=
    (cell_eq_of_header (take_dropBlankRows _) above).trans (cell_trimCells sheet row column)
  unfold Column.ofSheet
  rw [cells 0 (by decide), cells 1 (by decide), cells 2 (by decide), cells 3 (by decide),
    Header.ofText_trimmed, Text.trimmed_trimmed, Text.trimmed_trimmed, Text.trimmed_trimmed]

/-! ## Agreement -/

/-- Rows that agree outside of some columns, and of which both or none are blank. -/
structure RowsAgree (skipped : Nat → Prop) (cells others : List String) : Prop where
  shown : ∀ column, ¬ skipped column → others[column]? = cells[column]?
  blank : isBlankRow others = isBlankRow cells

/-- Sheets of the same header that differ below it in skipped columns at most, and whose
data rows are blank in the same places. -/
structure AgreeOffSkipped (left right : Sheet) : Prop where
  name : right.name = left.name
  header : right.rows.take headerRows = left.rows.take headerRows
  data : List.Forall₂ (RowsAgree left.IsSkipped) (left.rows.drop headerRows)
    (right.rows.drop headerRows)

theorem RowsAgree.map_trimmed {skipped : Nat → Prop} {cells others : List String}
    (agree : RowsAgree skipped cells others) :
    RowsAgree skipped (cells.map Text.trimmed) (others.map Text.trimmed) where
  shown column shown := by
    rw [List.getElem?_map, List.getElem?_map, agree.shown column shown]
  blank := by rw [isBlankRow_map_trimmed, isBlankRow_map_trimmed, agree.blank]

theorem agreeOff_of_forall₂ {skipped : Nat → Prop} (name : right.name = left.name)
    (rows : List.Forall₂ (RowsAgree skipped) left.rows right.rows) :
    AgreeOff skipped left right where
  name
  rowCount := rows.length_eq.symm
  cell? row column shown := by
    by_cases within : row < left.rows.length
    · have inside : row < right.rows.length := rows.length_eq ▸ within
      have agree := rows.get within inside
      unfold cell?
      rw [List.getElem?_eq_getElem within, List.getElem?_eq_getElem inside]
      exact agree.shown column shown
    · have outside : right.rows.length ≤ row := by
        rw [← rows.length_eq]
        omega
      unfold cell?
      rw [List.getElem?_eq_none outside, List.getElem?_eq_none (by omega)]

namespace AgreeOffSkipped

/-- The same rows are dropped from both sheets, since they are blank in the same places. -/
theorem cleaned (agree : left.AgreeOffSkipped right) :
    AgreeOff left.IsSkipped left.trimCells.dropBlankRows right.trimCells.dropBlankRows := by
  refine agreeOff_of_forall₂ agree.name (List.rel_append ?_ (List.rel_filter ?_ ?_))
  · change List.Forall₂ _ ((left.rows.map _).take headerRows) ((right.rows.map _).take headerRows)
    rw [← List.map_take, ← List.map_take, agree.header]
    exact List.forall₂_same.mpr fun _ _ => ⟨fun _ _ => rfl, rfl⟩
  · intro cells others same
    dsimp only
    rw [same.blank]
  · change List.Forall₂ _ ((left.rows.map _).drop headerRows) ((right.rows.map _).drop headerRows)
    rw [← List.map_drop, ← List.map_drop, List.forall₂_map_left_iff, List.forall₂_map_right_iff]
    exact agree.data.imp fun _ _ => RowsAgree.map_trimmed

theorem header_cleaned (agree : left.AgreeOffSkipped right) :
    right.trimCells.dropBlankRows.rows.take headerRows =
      left.trimCells.dropBlankRows.rows.take headerRows := by
  rw [take_dropBlankRows, take_dropBlankRows]
  change (right.rows.map _).take headerRows = (left.rows.map _).take headerRows
  rw [← List.map_take, ← List.map_take, agree.header]

end AgreeOffSkipped

end Sheet

/-! ## Schemas -/

/-- A schema is read off the header alone. -/
theorem Schema.ofSheet_eq_of_header {left right : Sheet} (nameSpace : String)
    (name : right.name = left.name) (rowCount : right.rowCount = left.rowCount)
    (header : right.rows.take Sheet.headerRows = left.rows.take Sheet.headerRows) :
    Schema.ofSheet right nameSpace = Schema.ofSheet left nameSpace := by
  have first := congrArg List.head? header
  rw [List.head?_take, List.head?_take] at first
  have width : right.columnCount = left.columnCount := by
    unfold Sheet.columnCount
    rw [show right.rows.head? = left.rows.head? from first]
  have columns : Column.ofSheet right = Column.ofSheet left := by
    funext column
    have cells (row : Nat) (above : row < Sheet.headerRows) :
        right.cell row column = left.cell row column := Sheet.cell_eq_of_header header above
    unfold Column.ofSheet
    rw [cells 0 (by decide), cells 1 (by decide), cells 2 (by decide), cells 3 (by decide)]
  unfold Schema.ofSheet HeaderBlock.ofSheet Sheet.hasHeader
  rw [name, rowCount, width, columns]

namespace Sheet.AgreeOffSkipped

variable {left right : Sheet} {nameSpace : String} {schema : Schema}
  {diagnostics : List Diagnostic}

theorem schema_cleaned (agree : left.AgreeOffSkipped right) (nameSpace : String) :
    Schema.ofSheet right.trimCells.dropBlankRows nameSpace =
      Schema.ofSheet left.trimCells.dropBlankRows nameSpace :=
  Schema.ofSheet_eq_of_header nameSpace agree.name agree.cleaned.rowCount agree.header_cleaned

end Sheet.AgreeOffSkipped

/-- No field of a table is read off a skipped column. -/
theorem Schema.not_isSkipped {sheet : Sheet} {nameSpace : String} {schema : Schema}
    {diagnostics : List Diagnostic}
    (resolves : Schema.ofSheet sheet.trimCells.dropBlankRows nameSpace = .ok (schema, diagnostics))
    {field : Field} (member : field ∈ schema.fields) : ¬ sheet.IsSkipped field.column := by
  rw [Schema.fields_ofSheet resolves] at member
  obtain ⟨column, kept, rfl⟩ := List.mem_map.mp member
  obtain ⟨listed, keeps⟩ := List.mem_filter.mp kept
  obtain ⟨index, -, rfl⟩ := List.mem_map.mp listed
  rw [Sheet.ofSheet_cleaned] at keeps ⊢
  rw [Column.column_toField, Sheet.index_ofSheet]
  intro skipped
  rw [Sheet.isKept_of_isSkipped skipped] at keeps
  cases keeps

namespace Sheet.AgreeOff

variable {touched : Nat → Prop} {former later : Sheet} {schema : Schema}

/-! ## What fields see -/

theorem setCell (agree : AgreeOff touched former later) (row column : Nat) (text : String) :
    AgreeOff touched (former.setCell row column text) (later.setCell row column text) where
  name := agree.name
  rowCount := by
    have rows := agree.rowCount
    unfold Sheet.rowCount Sheet.setCell at *
    rw [List.length_modify, List.length_modify, rows]
  cell? other index apart := by
    rw [cell?_setCell, cell?_setCell, agree.cell? other index apart]

theorem foldl_setCell (agree : AgreeOff touched former later) (column : Nat)
    (write : String → String) (cells : List (Nat × String)) :
    AgreeOff touched
      (cells.foldl (fun sheet (row, text) => sheet.setCell row column (write text)) former)
      (cells.foldl (fun sheet (row, text) => sheet.setCell row column (write text)) later) := by
  induction cells generalizing former later with
  | nil => exact agree
  | cons cell cells ih => exact ih (agree.setCell cell.1 column (write cell.2))

theorem normalizeColumn (agree : AgreeOff touched former later) {field : Field}
    (shown : ¬ touched field.column) :
    AgreeOff touched (former.normalizeColumn field) (later.normalizeColumn field) := by
  unfold Sheet.normalizeColumn
  rw [agree.columnTexts shown]
  exact agree.foldl_setCell field.column (fun text => (field.reportOn text).normalized) _

/-- Normalization counts, reports and writes the same in both sheets. -/
theorem normalizeFields (agree : AgreeOff touched former later) {fields : List Field}
    (shown : ∀ field ∈ fields, ¬ touched field.column) :
    (later.normalizeFields fields).1 = (former.normalizeFields fields).1 ∧
    (later.normalizeFields fields).2.2 = (former.normalizeFields fields).2.2 ∧
    AgreeOff touched (former.normalizeFields fields).2.1 (later.normalizeFields fields).2.1 := by
  induction fields generalizing former later with
  | nil => exact ⟨rfl, rfl, agree⟩
  | cons field fields ih =>
      rw [List.forall_mem_cons] at shown
      have texts := agree.columnTexts shown.1
      obtain ⟨counted, errors, normal⟩ := ih (agree.normalizeColumn shown.1) shown.2
      simp only [Sheet.normalizeFields, Sheet.normalizeField]
      rw [texts, counted, errors]
      exact ⟨rfl, rfl, normal⟩

/-- What is computed from the data rows is the same when it only reads the cells of fields. -/
theorem map_dataRows {α : Type} (agree : AgreeOff touched former later)
    (read : Nat → List String → α)
    (reads : ∀ row (cells others : List String),
      (∀ column, ¬ touched column → others[column]? = cells[column]?) →
        read row others = read row cells) :
    (later.dataRows.map fun (row, cells) => read row cells) =
      former.dataRows.map fun (row, cells) => read row cells := by
  apply List.ext_getElem?
  intro index
  unfold dataRows
  rw [List.getElem?_map, List.getElem?_map, List.getElem?_mapIdx, List.getElem?_mapIdx,
    List.getElem?_drop, List.getElem?_drop]
  have count : later.rows.length = former.rows.length := agree.rowCount
  by_cases within : headerRows + index < former.rows.length
  · have inside : headerRows + index < later.rows.length := count ▸ within
    rw [List.getElem?_eq_getElem within, List.getElem?_eq_getElem inside]
    refine congrArg some (reads _ _ _ fun column shown => ?_)
    have same := agree.cell? (headerRows + index) column shown
    unfold Sheet.cell? at same
    rw [List.getElem?_eq_getElem within, List.getElem?_eq_getElem inside] at same
    exact same
  · rw [List.getElem?_eq_none (by omega), List.getElem?_eq_none (by omega)]

theorem rowsOf (agree : AgreeOff touched former later)
    (shown : ∀ field ∈ schema.fields, ¬ touched field.column) :
    later.rowsOf schema = former.rowsOf schema := by
  refine agree.map_dataRows (DataRow.ofCells schema) fun row cells others same => ?_
  exact congrArg (DataRow.mk row) (List.map_congr_left fun field member => by
    rw [same field.column (shown field member)])

theorem records (agree : AgreeOff touched former later)
    (shown : ∀ field ∈ schema.fields, ¬ touched field.column) :
    RecordSet.ofSheet schema later = RecordSet.ofSheet schema former := by
  unfold RecordSet.ofSheet
  refine congrArg (RecordSet.mk _ _ _) (agree.map_dataRows
    (fun _ cells => schema.fields.map fun field => field.storedIn cells)
    fun row cells others same => ?_)
  refine List.map_congr_left fun field member => ?_
  unfold Field.storedIn Field.valueIn Field.textIn
  rw [same field.column (shown field member)]

end Sheet.AgreeOff

end SheetCompiler

import SheetCompiler.Proofs.Schema.Outline
import SheetCompiler.Proofs.Sheet.Exclusion
import SheetCompiler.Proofs.StructuredCell.Stability

/-!
# Settled sheets

Normalization can leave a data row blank, or a cell that a default would have filled. A sheet
without such rows and cells is settled: once it is trimmed and normalized, neither cleaning
nor normalization changes it.
-/

set_option autoImplicit false

namespace SheetCompiler

namespace Field

variable {field other : Field}

theorem reportOn_of_outline (same : field.outline = other.outline) :
    field.reportOn = other.reportOn := by
  injection same with _ _ type _ _ _ defaultText
  funext text
  unfold reportOn sourceText
  rw [type, defaultText]

/-- The counts of a field depend on the reports on its cells alone. -/
theorem countCells_congr {texts others : List String}
    (same : texts.map field.reportOn = others.map field.reportOn) :
    field.countCells texts = field.countCells others := by
  have counted (texts : List String) : field.countCells texts =
      { field with
        kind := field.kind.updateStats fun stats =>
          (texts.map field.reportOn).foldl
            (fun stats report => stats.record report.isValid report.widths) stats } := by
    unfold countCells
    simp only [List.foldl_map]
  rw [counted, counted, same]

theorem countCells_of_unshaped (unshaped : field.kind = .plain ∨ field.kind = .localized)
    (texts : List String) : field.countCells texts = field := by
  obtain ⟨name, column, type, declared, scope, kind, defaultText, description, header⟩ := field
  rcases unshaped with rfl | rfl <;> rfl

end Field

namespace Sheet

variable {sheet left right : Sheet} {fields : List Field} {row column : Nat}

/-! ## Headers -/

theorem header_eq_of_cell? (rowCount : right.rowCount = left.rowCount)
    (cells : ∀ row column, row < headerRows → right.cell? row column = left.cell? row column) :
    right.rows.take headerRows = left.rows.take headerRows := by
  have cut (sheet : Sheet) (row column : Nat) :
      (⟨sheet.name, sheet.rows.take headerRows⟩ : Sheet).cell? row column =
        if row < headerRows then sheet.cell? row column else none := by
    unfold cell?
    rw [List.getElem?_take]
    split <;> rfl
  have whole : (⟨left.name, right.rows.take headerRows⟩ : Sheet) =
      ⟨left.name, left.rows.take headerRows⟩ := by
    refine eq_of_cell? rfl ?_ fun row column => ?_
    · have count : right.rows.length = left.rows.length := rowCount
      rw [Sheet.rowCount, Sheet.rowCount, List.length_take, List.length_take, count]
    · have former := cut left row column
      have later := cut ⟨left.name, right.rows⟩ row column
      dsimp only at former later
      rw [former, later]
      split
      · rename_i above
        exact cells row column above
      · rfl
  exact congrArg Sheet.rows whole

theorem take_normalizeColumn (sheet : Sheet) (field : Field) :
    (sheet.normalizeColumn field).rows.take headerRows = sheet.rows.take headerRows := by
  have changed : sheet.normalizeColumn field = sheet.mapData _ :=
    foldl_setCell sheet field.column fun text => (field.reportOn text).normalized
  rw [changed]
  exact take_headerRows_append sheet.rows (List.map _) rfl

theorem take_normalizeFields (sheet : Sheet) (fields : List Field) :
    (sheet.normalizeFields fields).2.1.rows.take headerRows = sheet.rows.take headerRows := by
  induction fields generalizing sheet with
  | nil => rfl
  | cons field fields ih =>
      exact (ih (sheet.normalizeColumn field)).trans (take_normalizeColumn sheet field)

/-! ## Counts -/

/-- Each field counts the cells of its column in the sheet as it was. -/
theorem counts_normalizeFields (sheet : Sheet) (distinct : (fields.map (·.column)).Nodup) :
    (sheet.normalizeFields fields).1 =
      fields.map fun field => field.countCells ((sheet.columnTexts field.column).map (·.2)) := by
  induction fields generalizing sheet with
  | nil => rfl
  | cons first fields ih =>
      obtain ⟨fresh, distinct⟩ := List.nodup_cons.mp distinct
      rw [normalizeFields, List.map_cons]
      refine congrArg₂ _ rfl ((ih (sheet.normalizeColumn first) distinct).trans ?_)
      exact List.map_congr_left fun field later => by
        rw [columnTexts_normalizeColumn sheet fresh later]

/-! ## What stays -/

/-- A sheet without blank data rows, in which no default fills a blank data cell. -/
structure IsSettled (fields : List Field) (sheet : Sheet) : Prop where
  rows : ∀ cells ∈ sheet.rows.drop headerRows, isBlankRow cells = false
  cells : ∀ field ∈ fields, ∀ row, headerRows ≤ row → ∀ text,
    sheet.cell? row field.column = some text → field.Settles text

theorem IsSettled.of_outline {others : List Field} (settled : sheet.IsSettled fields)
    (same : others.map Field.outline = fields.map Field.outline) : sheet.IsSettled others where
  rows := settled.rows
  cells field member row data text reads := by
    obtain ⟨origin, listed, outline⟩ := Field.exists_outline same member
    have known := settled.cells origin listed row data text
    rw [Field.column_eq_of_outline outline] at known
    unfold Field.Settles at known ⊢
    rw [← Field.reportOn_of_outline outline]
    exact known reads

theorem dropBlankRows_eq_self_iff :
    sheet.dropBlankRows.rowCount = sheet.rowCount ↔
      ∀ cells ∈ sheet.rows.drop headerRows, isBlankRow cells = false := by
  have whole : sheet.rowCount =
      (sheet.rows.take headerRows).length + (sheet.rows.drop headerRows).length := by
    rw [rowCount, ← List.length_append, List.take_append_drop]
  have kept : sheet.dropBlankRows.rowCount = (sheet.rows.take headerRows).length +
      ((sheet.rows.drop headerRows).filter fun row => !isBlankRow row).length :=
    List.length_append
  rw [kept, whole, Nat.add_left_cancel_iff, List.length_filter_eq_length_iff]
  simp only [Bool.not_eq_true']

theorem dropBlankRows_eq_self
    (rows : ∀ cells ∈ sheet.rows.drop headerRows, isBlankRow cells = false) :
    sheet.dropBlankRows = sheet := by
  have kept : (sheet.rows.drop headerRows).filter (fun row => !isBlankRow row) =
      sheet.rows.drop headerRows :=
    List.filter_eq_self.mpr fun cells listed => by rw [rows cells listed]; rfl
  unfold dropBlankRows
  rw [kept, List.take_append_drop]

theorem trimCells_eq_self
    (tight : ∀ row column text, sheet.cell? row column = some text → Text.trimmed text = text) :
    sheet.trimCells = sheet := by
  rw [trimCells_eq_mapCells]
  refine eq_of_cell? rfl (rowCount_mapCells sheet _) fun row column => ?_
  rw [cell?_mapCells]
  cases reads : sheet.cell? row column with
  | none => rfl
  | some text => exact congrArg some (tight row column text reads)

theorem normalizeColumn_eq_self {field : Field}
    (normal : ∀ row, headerRows ≤ row → ∀ text, sheet.cell? row field.column = some text →
      (field.reportOn text).normalized = text) :
    sheet.normalizeColumn field = sheet := by
  have agree := agreeOff_normalizeColumn sheet field
  refine eq_of_cell? agree.name agree.rowCount fun row column => ?_
  by_cases here : column = field.column
  · subst here
    by_cases data : headerRows ≤ row
    · rw [cell?_normalizeColumn sheet field data]
      cases reads : sheet.cell? row field.column with
      | none => rfl
      | some text => exact congrArg some (normal row data text reads)
    · exact cell?_eq_of_header (take_normalizeColumn sheet field) (Nat.not_le.mp data)
  · exact agree.cell? row column here

theorem normalizeFields_eq_self
    (normal : ∀ field ∈ fields, ∀ row, headerRows ≤ row → ∀ text,
      sheet.cell? row field.column = some text → (field.reportOn text).normalized = text) :
    (sheet.normalizeFields fields).2.1 = sheet := by
  induction fields with
  | nil => rfl
  | cons field fields ih =>
      rw [List.forall_mem_cons] at normal
      change ((sheet.normalizeColumn field).normalizeFields fields).2.1 = sheet
      rw [normalizeColumn_eq_self normal.1]
      exact ih normal.2

end Sheet

end SheetCompiler

import SheetCompiler.Proofs.Pipeline.Completion
import SheetCompiler.Proofs.Pipeline.Processing
import SheetCompiler.Proofs.Sheet.Exclusion

/-!
# What comes of a header

The diagnostics and the generated code of a run depend on the header rows alone. How many
data rows there are, how wide they are and what they hold makes no difference, even though
short header rows are filled up to the widest data row and all cells are trimmed before the
header is read, and data changes the schema afterwards.
-/

set_option autoImplicit false

namespace SheetCompiler

/-! ## Headers -/

namespace Sheet

variable {sheet left right : Sheet} {row column : Nat}

/-- Rows that are equal up to empty cells at their ends. -/
def SameButTrailing (cells others : List String) : Prop :=
  ∃ common left right, cells = common ++ List.replicate left "" ∧
    others = common ++ List.replicate right ""

/-- Sheets of one name with the same header rows up to empty cells at their ends. -/
structure SameHeader (left right : Sheet) : Prop where
  name : right.name = left.name
  header : List.Forall₂ SameButTrailing (left.rows.take headerRows) (right.rows.take headerRows)

theorem getD_append_replicate (cells : List String) (count column : Nat) :
    ((cells ++ List.replicate count "")[column]?).getD "" = (cells[column]?).getD "" := by
  rw [List.getElem?_append]
  split
  · rfl
  · rename_i beyond
    rw [List.getElem?_eq_none (Nat.not_lt.mp beyond), List.getElem?_replicate]
    split <;> rfl

theorem SameButTrailing.getD_eq {cells others : List String} (same : SameButTrailing cells others)
    (column : Nat) : (others[column]?).getD "" = (cells[column]?).getD "" := by
  obtain ⟨common, left, right, rfl, rfl⟩ := same
  rw [getD_append_replicate, getD_append_replicate]

namespace SameHeader

theorem cell_eq (same : left.SameHeader right) (above : row < headerRows) (column : Nat) :
    right.cell row column = left.cell row column := by
  have count := same.header.length_eq
  have shown (sheet : Sheet) :
      sheet.cell row column
        = (((sheet.rows.take headerRows)[row]?).bind fun cells => cells[column]?).getD "" := by
    rw [List.getElem?_take_of_lt above, cell]
  rw [shown left, shown right]
  by_cases within : row < (left.rows.take headerRows).length
  · have inside := count ▸ within
    rw [List.getElem?_eq_getElem within, List.getElem?_eq_getElem inside]
    exact (same.header.get within inside).getD_eq column
  · rw [List.getElem?_eq_none (by omega), List.getElem?_eq_none (by omega)]

theorem hasHeader_eq (same : left.SameHeader right) : right.hasHeader = left.hasHeader := by
  have count := same.header.length_eq
  rw [List.length_take, List.length_take] at count
  unfold hasHeader rowCount
  rw [decide_eq_decide]
  omega

theorem ofSheet_column_eq (same : left.SameHeader right) :
    Column.ofSheet right = Column.ofSheet left := by
  funext column
  unfold Column.ofSheet
  rw [same.cell_eq (by decide), same.cell_eq (by decide), same.cell_eq (by decide),
    same.cell_eq (by decide)]

end SameHeader

/-! ## Columns -/

theorem cell_zero_of_le (beyond : sheet.columnCount ≤ column) : sheet.cell 0 column = "" := by
  unfold columnCount at beyond
  unfold cell
  cases rows : sheet.rows with
  | nil => rfl
  | cons first rest =>
      rw [rows] at beyond
      exact congrArg (Option.getD · "") (List.getElem?_eq_none (by simpa using beyond))

/-- Behind the last header cell no column is kept. -/
theorem filter_isKept_range {width : Nat} (wide : sheet.columnCount ≤ width) :
    ((List.range width).map (Column.ofSheet sheet)).filter Column.isKept
      = ((List.range sheet.columnCount).map (Column.ofSheet sheet)).filter Column.isKept := by
  obtain ⟨more, rfl⟩ := Nat.exists_eq_add_of_le wide
  have none : (((List.range more).map (sheet.columnCount + ·)).map (Column.ofSheet sheet)).filter
      Column.isKept = [] := by
    rw [List.filter_eq_nil_iff]
    intro column listed
    obtain ⟨index, member, rfl⟩ := List.mem_map.mp listed
    obtain ⟨further, -, rfl⟩ := List.mem_map.mp member
    have empty : sheet.cell 0 (sheet.columnCount + further) = "" :=
      cell_zero_of_le (Nat.le_add_right ..)
    have skipped : sheet.IsSkipped (sheet.columnCount + further) :=
      .inl (empty ▸ Header.isEmpty_ofText_of_isBlank rfl)
    simp [isKept_of_isSkipped skipped]
  rw [List.range_add, List.map_append, List.filter_append, none, List.append_nil]

end Sheet

/-- A schema is read off the columns; it does not matter how far they go on without headers. -/
theorem Schema.ofSheet_eq_of_columns {left right : Sheet} (nameSpace : String)
    (name : right.name = left.name) (headed : left.hasHeader = true)
    (others : right.hasHeader = true) (columns : Column.ofSheet right = Column.ofSheet left) :
    Schema.ofSheet right nameSpace = Schema.ofSheet left nameSpace := by
  have kept : ((List.range right.columnCount).map (Column.ofSheet right)).filter Column.isKept
      = ((List.range left.columnCount).map (Column.ofSheet left)).filter Column.isKept := by
    rw [← Sheet.filter_isKept_range (Nat.le_max_left right.columnCount left.columnCount), columns,
      Sheet.filter_isKept_range (Nat.le_max_right right.columnCount left.columnCount)]
  unfold Schema.ofSheet HeaderBlock.ofSheet
  rw [if_pos headed, if_pos others, name]
  dsimp only [bind, Except.bind]
  rw [kept]

/-! ## Runs -/

namespace Standard

variable {settings : StandardSettings} {nameSpace : String} {stops : Bool}
  {sheet left right : Sheet}
  {schema : Schema} {diagnostics : List Diagnostic}

theorem ofSheet_cleaned_eq (nameSpace : String) (same : left.SameHeader right)
    (headed : left.hasHeader = true) :
    Schema.ofSheet (cleaned right) nameSpace = Schema.ofSheet (cleaned left) nameSpace := by
  refine Schema.ofSheet_eq_of_columns nameSpace same.name ?_ ?_ ?_
  · rw [hasHeader_cleaned, headed]
  · rw [hasHeader_cleaned, same.hasHeader_eq, headed]
  · funext column
    have cleans (sheet : Sheet) : Column.ofSheet (cleaned sheet) column
        = Column.ofSheet sheet column := Sheet.ofSheet_cleaned sheet column
    rw [cleans, cleans, same.ofSheet_column_eq]

/-- The diagnostics and the files of a run are settled before its data is processed. -/
theorem made_of_resolves (settings : StandardSettings) (stops : Bool) (clock : Clock)
    (resolves : Schema.ofSheet (cleaned sheet) nameSpace = .ok (schema, diagnostics)) :
    let report := (Pipeline.standard ⟨nameSpace, stops, none⟩ settings).run clock false sheet
    report.state.diagnostics = diagnostics ∧
      report.state.files = (CodeFile.ofSchema schema).foldl RunState.placeFile [] := by
  intro report
  cases processing : processed settings schema (cleaned sheet) with
  | error fault =>
      obtain ⟨_, _, _, ran, -⟩ :=
        run_invalidPattern_leaves settings nameSpace stops clock resolves processing
      have ends : report = _ := ran
      rw [ends]
      exact ⟨rfl, rfl⟩
  | ok moved =>
      have leaves := run_leaves settings nameSpace stops clock resolves processing
      exact ⟨leaves.diagnostics, leaves.files⟩

/-- Without a header a run makes nothing. -/
theorem made_of_shortage (settings : StandardSettings) (nameSpace : String) (stops : Bool)
    (clock : Clock) (headless : sheet.hasHeader = false) :
    let report := (Pipeline.standard ⟨nameSpace, stops, none⟩ settings).run clock false sheet
    report.state.diagnostics = [] ∧ report.state.files = [] := by
  intro report
  obtain ⟨shortage, fails⟩ := exists_shortage nameSpace headless
  obtain ⟨_, _, _, ran, -⟩ := run_shortage_leaves settings nameSpace stops clock fails
  have ends : report = _ := ran
  rw [ends]
  exact ⟨rfl, rfl⟩

/-- Runs on sheets of the same header report the same diagnostics and generate the same code,
whatever the settings of the later stages are and wherever these stop. -/
theorem run_sameCode (nameSpace : String) (settings others : StandardSettings) (stops halts : Bool)
    (clock watch : Clock) (left right : Sheet) (same : left.SameHeader right) :
    let former := (Pipeline.standard ⟨nameSpace, stops, none⟩ settings).run clock false left
    let later := (Pipeline.standard ⟨nameSpace, halts, none⟩ others).run watch false right
    later.state.diagnostics = former.state.diagnostics ∧
      later.state.files = former.state.files := by
  intro former later
  cases headed : left.hasHeader with
  | false =>
      have alone : right.hasHeader = false := same.hasHeader_eq.trans headed
      obtain ⟨diagnostics, files⟩ := made_of_shortage settings nameSpace stops clock headed
      obtain ⟨problems, code⟩ := made_of_shortage others nameSpace halts watch alone
      exact ⟨problems.trans diagnostics.symm, code.trans files.symm⟩
  | true =>
      obtain ⟨schema, found, resolves⟩ := exists_resolved nameSpace headed
      have again := (ofSheet_cleaned_eq nameSpace same headed).trans resolves
      obtain ⟨diagnostics, files⟩ := made_of_resolves settings stops clock resolves
      obtain ⟨problems, code⟩ := made_of_resolves others halts watch again
      exact ⟨problems.trans diagnostics.symm, code.trans files.symm⟩

/-- A run that succeeds, and one on a wider sheet that its key pattern stops. -/
theorem run_sameCode_widerData :
    let left : Sheet := ⟨"Item",
      [["Id", " Name@Lan@Loud ", ""], ["int", "string", ""], ["", "shown", ""], ["", "", ""]]⟩
    let right : Sheet := ⟨"Item",
      [["Id", " Name@Lan@Loud ", "", ""], ["int", "string", "", ""], ["", "shown", "", ""],
        ["", "", "", ""], ["x", "名", "", "beyond"], ["", "", "", " "]]⟩
    let broken : StandardSettings :=
      { StandardSettings.standard with
        localization := { LocalizationSettings.standard with keyPattern := "(" } }
    let former := (Pipeline.standard ⟨"", false, none⟩ .standard).run .least false left
    let later := (Pipeline.standard ⟨"", false, none⟩ broken).run .least false right
    former.success = true ∧ later.success = false ∧ former.state.diagnostics ≠ [] ∧
      former.state.files ≠ [] ∧ left.SameHeader right ∧
      later.state.diagnostics = former.state.diagnostics ∧
      later.state.files = former.state.files := by
  intro left right broken
  have same : left.SameHeader right := by
    refine ⟨rfl, .cons ⟨["Id", " Name@Lan@Loud "], 1, 2, rfl, rfl⟩
      (.cons ⟨["int", "string"], 1, 2, rfl, rfl⟩ (.cons ⟨["", "shown"], 1, 2, rfl, rfl⟩
        (.cons ⟨[], 3, 4, rfl, rfl⟩ .nil)))⟩
  exact ⟨by decide +kernel, by decide +kernel, by decide +kernel, by decide +kernel, same,
    run_sameCode "" .standard broken false false .least .least left right same⟩

end Standard

end SheetCompiler

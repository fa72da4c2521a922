import SheetCompiler.Proofs.Pipeline.Success
import SheetCompiler.Proofs.Sheet.Exclusion

/-!
# Runs on sheets that differ in skipped columns

What stands in a skipped column leaves no trace in what a run produces, as long as no row
becomes blank by it: blank rows are dropped, and their cells in skipped columns count.
-/

set_option autoImplicit false

namespace SheetCompiler

variable {skipped : Nat → Prop} {schema : Schema}

/-- Fields of the same outlines stand in the same columns. -/
theorem Field.shown_of_outline {fields others : List Field}
    (same : fields.map Field.outline = others.map Field.outline)
    (shown : ∀ field ∈ others, ¬ skipped field.column) : ∀ field ∈ fields, ¬ skipped field.column := by
  intro field member
  obtain ⟨origin, listed, outline⟩ := Field.exists_outline same member
  rw [← Field.column_eq_of_outline outline]
  exact shown origin listed

/-! ## Localization -/

namespace LocalizedTable

variable {rules : LocalizationRules} {left right : LocalizedTable}

/-- Localized tables of which only the sheets differ, in some columns. -/
structure Alike (skipped : Nat → Prop) (left right : LocalizedTable) : Prop where
  schema : right.schema = left.schema
  table : right.table = left.table
  replaced : right.replaced = left.replaced
  sheet : Sheet.AgreeOff skipped left.sheet right.sheet

theorem Alike.moveCell (alike : Alike skipped left right) (name : String) (column : Nat)
    (cell : Nat × String) :
    Alike skipped (moveCell rules name column left cell)
      (moveCell rules name column right cell) := by
  obtain ⟨schema, sheet, table, replaced⟩ := left
  obtain ⟨_, other, _, _⟩ := right
  obtain ⟨rfl, rfl, rfl, agree⟩ := alike
  unfold LocalizedTable.moveCell
  dsimp only
  split
  · exact ⟨rfl, rfl, rfl, agree⟩
  · exact ⟨rfl, rfl, rfl, agree.setCell cell.1 column _⟩

theorem Alike.foldl_moveCell (alike : Alike skipped left right) (rules : LocalizationRules)
    (name : String) (column : Nat) (cells : List (Nat × String)) :
    Alike skipped (cells.foldl (LocalizedTable.moveCell rules name column) left)
      (cells.foldl (LocalizedTable.moveCell rules name column) right) := by
  induction cells generalizing left right with
  | nil => exact alike
  | cons cell cells ih =>
      rw [List.foldl_cons, List.foldl_cons]
      exact ih (alike.moveCell name column cell)

theorem Alike.moveField (alike : Alike skipped left right) (name : String)
    (shown : ∀ field ∈ left.schema.fields, ¬ skipped field.column) :
    Alike skipped (moveField rules left name) (moveField rules right name) := by
  unfold LocalizedTable.moveField
  rw [alike.schema]
  cases found : left.schema.field? name with
  | none => exact alike
  | some field =>
      have apart := shown field (List.mem_of_find?_eq_some found)
      have marked : Alike skipped
          { left with schema := left.schema.modifyField name markLocalized }
          { right with schema := left.schema.modifyField name markLocalized } :=
        ⟨rfl, alike.table, alike.replaced, alike.sheet⟩
      have moved := marked.foldl_moveCell rules name field.column
        (left.sheet.columnTexts field.column)
      dsimp only
      rw [alike.sheet.columnTexts apart]
      exact ⟨congrArg (listField name) moved.schema, moved.table, moved.replaced, moved.sheet⟩

theorem Alike.foldl_moveField (alike : Alike skipped left right) (names : List String)
    (shown : ∀ field ∈ left.schema.fields, ¬ skipped field.column) :
    Alike skipped (names.foldl (LocalizedTable.moveField rules) left)
      (names.foldl (LocalizedTable.moveField rules) right) := by
  induction names generalizing left right with
  | nil => exact alike
  | cons name names ih =>
      have outline := (moveField_frame rules left name).outline
      exact ih (alike.moveField name shown) (Field.shown_of_outline outline shown)

end LocalizedTable

namespace LocalizationRules

variable {rules : LocalizationRules} {left right : Sheet}

theorem detects_eq (agree : Sheet.AgreeOff skipped left right) {field : Field}
    (shown : ¬ skipped field.column) : rules.detects right field = rules.detects left field := by
  unfold detects sampleLooksLikeProse sample
  rw [agree.columnTexts shown]

theorem extract_alike (agree : Sheet.AgreeOff skipped left right)
    (shown : ∀ field ∈ schema.fields, ¬ skipped field.column) (table : LocalizationTable) :
    LocalizedTable.Alike skipped (rules.extract schema left table)
      (rules.extract schema right table) := by
  have detected : rules.detectedFields schema right = rules.detectedFields schema left :=
    congrArg (List.map _) (List.filter_congr fun field member =>
      detects_eq agree (shown field member))
  unfold extract
  rw [detected]
  have start : LocalizedTable.Alike skipped ⟨schema, left, table, 0⟩ ⟨schema, right, table, 0⟩ :=
    ⟨rfl, rfl, rfl, agree⟩
  exact start.foldl_moveField _ shown

end LocalizationRules

namespace Standard

variable {left right : Sheet} {moved other : LocalizedTable}

/-! ## Processing -/

theorem cellErrors_eq (agree : Sheet.AgreeOff skipped left right)
    (shown : ∀ field ∈ schema.fields, ¬ skipped field.column) :
    cellErrors schema right = cellErrors schema left :=
  (agree.normalizeFields shown).2.1

theorem schema_normalized_eq (known : KnownTypes) (agree : Sheet.AgreeOff skipped left right)
    (shown : ∀ field ∈ schema.fields, ¬ skipped field.column) :
    (normalized known schema right).1 = (normalized known schema left).1 :=
  congrArg (linked known schema) (agree.normalizeFields shown).1

theorem relations_eq (known : KnownTypes) (agree : Sheet.AgreeOff skipped left right)
    (shown : ∀ field ∈ schema.fields, ¬ skipped field.column) :
    relations known schema right = relations known schema left :=
  congrArg Schema.relations (schema_normalized_eq known agree shown)

/-- The processors of data stop at the same fault, or leave tables of which only the skipped
columns differ. -/
theorem processed_alike (settings : StandardSettings) (agree : Sheet.AgreeOff skipped left right)
    (shown : ∀ field ∈ schema.fields, ¬ skipped field.column) :
    (∃ fault, processed settings schema left = .error fault ∧
      processed settings schema right = .error fault) ∨
    ∃ moved other, processed settings schema left = .ok moved ∧
      processed settings schema right = .ok other ∧ LocalizedTable.Alike skipped moved other := by
  have fields := Field.shown_of_outline (outline_normalized settings.known schema left) shown
  have normal := (agree.normalizeFields shown).2.2
  unfold processed localized
  dsimp only
  rw [schema_normalized_eq settings.known agree shown]
  split
  · cases LocalizationRules.ofSettings settings.localization with
    | error fault => exact .inl ⟨fault, rfl, rfl⟩
    | ok rules =>
        exact .inr ⟨_, _, rfl, rfl, LocalizationRules.extract_alike normal fields _⟩
  · exact .inr ⟨_, _, rfl, rfl, rfl, rfl, rfl, normal⟩

/-- The validators find the same. -/
theorem found_eq (settings : StandardSettings) (agree : Sheet.AgreeOff skipped left right)
    (shown : ∀ field ∈ schema.fields, ¬ skipped field.column)
    (fields : ∀ field ∈ moved.schema.fields, ¬ skipped field.column)
    (alike : LocalizedTable.Alike skipped moved other) (stops : Bool) :
    found settings stops schema right other = found settings stops schema left moved := by
  have rows := alike.sheet.rowsOf fields
  unfold found findings validated ruleFindings RuleSet.validate
  dsimp only
  rw [alike.schema, rows, cellErrors_eq agree shown]

end Standard

/-! ## Runs -/

/-- Two runs that succeed alike and produce the same. -/
structure RunReport.SameOutput (report other : RunReport) : Prop where
  success : other.success = report.success
  payload : other.state.payload = report.state.payload
  files : other.state.files = report.state.files
  localization : other.state.localization = report.state.localization
  relations : other.state.relations = report.state.relations
  cellErrors : other.state.cellErrors = report.state.cellErrors
  validation : other.state.validation = report.state.validation

namespace Standard

variable {settings : StandardSettings} {nameSpace : String} {stops : Bool} {left right : Sheet}
  {moved other : LocalizedTable} {diagnostics : List Diagnostic}

theorem sameOutput_of_leaves {former later : RunReport}
    (agree : Sheet.AgreeOff skipped left right)
    (shown : ∀ field ∈ schema.fields, ¬ skipped field.column)
    (fields : ∀ field ∈ moved.schema.fields, ¬ skipped field.column)
    (alike : LocalizedTable.Alike skipped moved other)
    (leaves : Leaves settings stops schema left diagnostics moved former)
    (others : Leaves settings stops schema right diagnostics other later) :
    former.SameOutput later := by
  have found := found_eq settings agree shown fields alike stops
  have failing : failures settings stops schema right other =
      failures settings stops schema left moved := congrArg (List.filter _) found
  refine ⟨?_, ?_, others.files.trans leaves.files.symm, ?_, ?_, ?_, ?_⟩
  · rw [Bool.eq_iff_iff, RunReport.success_iff, RunReport.success_iff, others.fault, leaves.fault,
      others.errors, leaves.errors, failing, List.map_eq_nil_iff, List.map_eq_nil_iff]
  · by_cases clean : failures settings stops schema left moved = []
    · rw [others.payload (failing.trans clean), leaves.payload clean, alike.schema,
        alike.sheet.records fields]
    · rw [others.noPayload fun none => clean (failing.symm.trans none), leaves.noPayload clean]
  · rw [others.localization, leaves.localization, alike.table]
  · rw [others.relations, leaves.relations, relations_eq settings.known agree shown]
  · rw [others.cellErrors, leaves.cellErrors, cellErrors_eq agree shown]
  · rw [others.validation, leaves.validation, found]

/-- Runs without a budget on sheets that differ in skipped columns produce the same, wherever
they stop. -/
theorem run_sameOutput (settings : StandardSettings) (nameSpace : String) (stops : Bool)
    (clock watch : Clock) (left right : Sheet) (agree : left.AgreeOffSkipped right) :
    ((Pipeline.standard ⟨nameSpace, stops, none⟩ settings).run clock false left).SameOutput
      ((Pipeline.standard ⟨nameSpace, stops, none⟩ settings).run watch false right) := by
  have same : Schema.ofSheet (cleaned right) nameSpace = Schema.ofSheet (cleaned left) nameSpace :=
    agree.schema_cleaned nameSpace
  have clean : Sheet.AgreeOff left.IsSkipped (cleaned left) (cleaned right) := agree.cleaned
  cases resolves : Schema.ofSheet (cleaned left) nameSpace with
  | error shortage =>
      obtain ⟨_, _, _, ran, errors⟩ :=
        run_shortage_leaves settings nameSpace stops clock resolves
      obtain ⟨_, _, _, ends, others⟩ :=
        run_shortage_leaves settings nameSpace stops watch (same.trans resolves)
      rw [ran, ends]
      exact ⟨rfl, rfl, rfl, rfl, rfl, rfl, rfl⟩
  | ok resolved =>
      obtain ⟨schema, diagnostics⟩ := resolved
      have again := same.trans resolves
      have shown : ∀ field ∈ schema.fields, ¬ left.IsSkipped field.column :=
        fun field member => Schema.not_isSkipped resolves member
      rcases processed_alike settings clean shown with
        ⟨fault, fails, stopped⟩ | ⟨moved, other, completes, finishes, alike⟩
      · obtain ⟨_, _, _, ran, -⟩ :=
          run_invalidPattern_leaves settings nameSpace stops clock resolves fails
        obtain ⟨_, _, _, ends, -⟩ :=
          run_invalidPattern_leaves settings nameSpace stops watch again stopped
        rw [ran, ends]
        refine ⟨rfl, rfl, rfl, rfl, ?_, ?_, rfl⟩
        · exact congrArg ([] ++ ·) (relations_eq settings.known clean shown)
        · exact congrArg ([] ++ ·) (cellErrors_eq clean shown)
      · have fields := Field.shown_of_outline (outline_processed completes) shown
        exact sameOutput_of_leaves clean shown fields alike
          (run_leaves settings nameSpace stops clock resolves completes)
          (run_leaves settings nameSpace stops watch again finishes)

/-- A column that is excluded and one without a name. -/
theorem run_sameOutput_twoColumns :
    let left : Sheet := ⟨"Item",
      [["Id", "Note@PM", " "], ["int", "string", ""], ["", "", ""], ["", "", ""],
        ["1", "draft", ""], ["x", "", "y"]]⟩
    let right : Sheet := ⟨"Item",
      [["Id", "Note@PM", " "], ["int", "string", ""], ["", "", ""], ["", "", ""],
        ["1", " final", "2"], ["x", "", ""]]⟩
    let pipeline := Pipeline.standard ⟨"", false, none⟩ .standard
    (pipeline.run .least false left).success = true ∧
      (pipeline.run .least false left).SameOutput (pipeline.run .least false right) := by
  intro left right pipeline
  have excluded : left.IsSkipped 1 := .inr ⟨"PM".toList, by decide +kernel, by decide +kernel⟩
  have unnamed : left.IsSkipped 2 := .inl (Header.isEmpty_ofText_of_isBlank (by decide +kernel))
  have apart (first former later note last : String) (column : Nat)
      (shown : ¬ left.IsSkipped column) :
      [first, note, last][column]? = [first, former, later][column]? := by
    have one : column ≠ 1 := fun here => shown (here ▸ excluded)
    have two : column ≠ 2 := fun here => shown (here ▸ unnamed)
    clear shown
    obtain _ | _ | _ | _ := column
    · rfl
    · exact absurd rfl one
    · exact absurd rfl two
    · rfl
  have rows : List.Forall₂ (Sheet.RowsAgree left.IsSkipped) (left.rows.drop Sheet.headerRows)
      (right.rows.drop Sheet.headerRows) :=
    .cons ⟨apart _ _ _ _ _, by decide +kernel⟩ (.cons ⟨apart _ _ _ _ _, by decide +kernel⟩ .nil)
  exact ⟨by decide +kernel,
    run_sameOutput .standard "" false .least .least left right ⟨rfl, rfl, rows⟩⟩

/-- A text in an excluded column keeps a row from being blank, and with it a record. -/
theorem run_differs_blankRow :
    let left : Sheet := ⟨"Item",
      [["Id", "Note@PM"], ["int", "string"], ["", ""], ["", ""], ["", ""]]⟩
    let right := left.setCell 4 1 "later"
    let payload (sheet : Sheet) :=
      ((Pipeline.standard .standard .standard).run .least false sheet).state.payload
    left.IsSkipped 1 ∧ payload right ≠ payload left := by
  refine ⟨.inr ⟨"PM".toList, by decide +kernel, by decide +kernel⟩, by decide +kernel⟩

end Standard

end SheetCompiler

import SheetCompiler.Proofs.Pipeline.Repetition
import SheetCompiler.Proofs.Validation.Marks

/-!
# Runs on the output of runs

A run on the sheet that a run has left behind does the same once more, exactly where that
sheet is settled. Normalization can empty a cell or a whole row, and then the second run
fills the cell with its default, or drops the row.
-/

set_option autoImplicit false

namespace SheetCompiler

/-- A later run that succeeds with the same payload and the same sheet, and has no text to
move. -/
structure RunReport.Repeats (former later : RunReport) : Prop where
  success : later.success = true
  payload : later.state.payload = former.state.payload
  sheet : later.state.sheet = former.state.sheet
  entries : later.state.localization.entries = []

/-- The records of a table depend on the outline of its schema. -/
theorem RecordSet.ofSheet_eq_of_outline {schema other : Schema} (sheet : Sheet)
    (name : other.name = schema.name) (nameSpace : other.nameSpace = schema.nameSpace)
    (same : other.fields.map Field.outline = schema.fields.map Field.outline) :
    RecordSet.ofSheet other sheet = RecordSet.ofSheet schema sheet := by
  unfold ofSheet
  have fields : other.fields.map Field.toRecordField = schema.fields.map Field.toRecordField :=
    Field.map_eq_of_outline (fun _ => rfl) same
  have rows (cells : List String) : (other.fields.map fun field => field.storedIn cells) =
      schema.fields.map fun field => field.storedIn cells :=
    Field.map_eq_of_outline (fun _ => rfl) same
  rw [name, nameSpace, fields]
  simp only [rows]

namespace Standard

variable {settings : StandardSettings} {resolved : Schema} {source sheet : Sheet}
  {moved again : LocalizedTable} {nameSpace : String} {diagnostics : List Diagnostic}

theorem trimmed_of_cleaned (row column : Nat) (text : String)
    (reads : (cleaned sheet).cell? row column = some text) : Text.trimmed text = text := by
  obtain ⟨cells, present, inside⟩ := Option.bind_eq_some_iff.mp reads
  have listed : cells ∈ sheet.trimCells.rows := by
    rcases List.mem_append.mp (List.mem_of_getElem? present) with header | data
    · exact List.mem_of_mem_take header
    · exact List.mem_of_mem_drop (List.mem_of_mem_filter data)
  obtain ⟨former, -, rfl⟩ := List.mem_map.mp listed
  obtain ⟨cell, -, rfl⟩ := List.mem_map.mp (List.mem_of_getElem? inside)
  exact Text.trimmed_trimmed cell

/-- Rules that may look at marks are only safe where detection sets none. -/
theorem validate_again (blind : ¬ IsManual settings → settings.rules.IgnoresMarks)
    (relocalizes : Relocalizes settings moved again) :
    settings.rules.validate again.schema again.sheet =
      settings.rules.validate moved.schema moved.sheet := by
  rw [relocalizes.sheet]
  by_cases manual : IsManual settings
  · unfold RuleSet.validate Sheet.rowsOf DataRow.ofCells
    rw [relocalizes.manual manual]
  · exact (blind manual).validate_eq relocalizes.unmarked moved.sheet

section SecondRun

variable (resolves : Schema.ofSheet (cleaned sheet) nameSpace = .ok (resolved, diagnostics))
  (completes : processed settings resolved (cleaned sheet) = .ok moved)
  (proper : IsProper resolved)

include resolves completes proper

/-- The header is left alone, so the schema is resolved again. -/
theorem resolves_again
    (rows : ∀ cells ∈ moved.sheet.rows.drop Sheet.headerRows, Sheet.isBlankRow cells = false) :
    cleaned moved.sheet = moved.sheet ∧
      Schema.ofSheet (cleaned moved.sheet) nameSpace = .ok (resolved, diagnostics) := by
  have follows := follows_processed proper completes
  have kept := follows.cleaned_eq trimmed_of_cleaned rows
  refine ⟨kept, ?_⟩
  rw [kept, ← resolves]
  exact Schema.ofSheet_eq_of_header nameSpace follows.name follows.rowCount follows.header

theorem run_again (standard : HasStandardKeys settings)
    (blind : ¬ IsManual settings → settings.rules.IgnoresMarks) (stops : Bool) (clock : Clock)
    (clean : failures settings stops resolved (cleaned sheet) moved = [])
    (settled : moved.sheet.IsSettled resolved.fields) :
    let second := (Pipeline.standard ⟨nameSpace, stops, none⟩ settings).run clock false moved.sheet
    second.success = true ∧
      second.state.payload = Wire.encode (RecordSet.ofSheet moved.schema moved.sheet) ∧
      second.state.sheet = moved.sheet ∧ second.state.localization.entries = [] := by
  intro second
  obtain ⟨kept, found⟩ := resolves_again resolves completes proper settled.rows
  obtain ⟨again, finishes, relocalizes⟩ := processed_again standard proper completes settled
  rw [← kept] at finishes
  have leaves := run_leaves settings nameSpace stops clock found finishes
  obtain ⟨names, targets, rules⟩ := (failures_eq_nil_iff completes).mp clean
  have faultless : failures settings stops resolved (cleaned moved.sheet) again = [] := by
    refine (failures_eq_nil_iff finishes).mpr ⟨names, targets, ?_⟩
    rw [validate_again blind relocalizes]
    exact rules
  have first : LocalizedTable.Frame _ _ moved := localized_frame completes
  have second : LocalizedTable.Frame _ _ again := localized_frame finishes
  have records : RecordSet.ofSheet again.schema again.sheet =
      RecordSet.ofSheet moved.schema moved.sheet := by
    rw [relocalizes.sheet]
    exact RecordSet.ofSheet_eq_of_outline moved.sheet (second.name.trans first.name.symm)
      (second.nameSpace.trans first.nameSpace.symm)
      ((outline_processed finishes).trans (outline_processed completes).symm)
  refine ⟨(success_iff_failures_eq_nil found finishes).mpr faultless, ?_,
    leaves.sheet.trans relocalizes.sheet, ?_⟩
  · rw [leaves.payload faultless, records]
  · rw [leaves.localization]
    exact relocalizes.entries

/-- A run that leaves the sheet as it is has dropped no row and filled no cell. -/
theorem settled_of_run {second : RunReport} {stops : Bool} {clock : Clock}
    (ran : (Pipeline.standard ⟨nameSpace, stops, none⟩ settings).run clock false moved.sheet =
      second)
    (succeeds : second.success = true) (same : second.state.sheet = moved.sheet) :
    moved.sheet.IsSettled resolved.fields := by
  subst ran
  obtain ⟨other, problems, again, found, finishes, -, leaves⟩ := exists_leaves_of_success succeeds
  rw [leaves.sheet] at same
  have counts : moved.sheet.rowCount = (cleaned moved.sheet).rowCount := by
    have agree := Sheet.agreeOff_normalizeFields (cleaned moved.sheet) other.fields
    have count := (localized_frame finishes).sheet.rowCount.trans agree.rowCount
    rw [same] at count
    exact count
  have rows : ∀ cells ∈ moved.sheet.rows.drop Sheet.headerRows, Sheet.isBlankRow cells = false := by
    have follows := follows_processed proper completes
    have tight := Sheet.trimCells_eq_self (follows.trimmed_eq trimmed_of_cleaned)
    rw [cleaned, tight] at counts
    exact Sheet.dropBlankRows_eq_self_iff.mp counts.symm
  obtain ⟨kept, resolving⟩ := resolves_again resolves completes proper rows
  obtain rfl := resolved_unique resolving found
  rw [kept] at finishes
  refine ⟨rows, fun field member row data text reads blank => ?_⟩
  have follows := follows_processed proper finishes
  rcases follows.cells field member row data with normal | ⟨-, -, key, -, mark⟩
  · rw [same, reads] at normal
    have stays : text = (field.reportOn text).normalized := Option.some.inj normal
    rw [← stays]
    exact blank
  · rw [same, reads] at mark
    rw [Option.some.inj mark, Localization.visible_mark] at blank
    cases blank

end SecondRun

/-- A run that succeeds with the standard key pattern repeats itself on the sheet that it has
left behind, exactly where that sheet is settled. Only where detection sets marks must the
rules not look at them. -/
theorem run_repeats_iff (settings : StandardSettings) (options : RunOptions)
    (clock watch : Clock) (sheet : Sheet) (standard : HasStandardKeys settings)
    (blind : ¬ IsManual settings → settings.rules.IgnoresMarks) (allows : options.Allows watch)
    (succeeds : ((Pipeline.standard options settings).run clock false sheet).success = true) :
    let first := (Pipeline.standard options settings).run clock false sheet
    let second := (Pipeline.standard options settings).run watch false first.state.sheet
    ∃ schema, first.state.schema = some schema ∧
      (first.Repeats second ↔ first.state.sheet.IsSettled schema.fields) := by
  obtain ⟨resolved, diagnostics, moved, resolves, completes, clean, leaves⟩ :=
    exists_leaves_of_success succeeds
  intro first second
  have proper := isProper_resolved resolves ((failures_eq_nil_iff completes).mp clean).1
  have outline := outline_processed completes
  have free : second =
      (Pipeline.standard ⟨options.nameSpace, options.stopsAtFailure, none⟩ settings).run watch
        false moved.sheet := by
    rw [← leaves.sheet]
    exact Pipeline.run_allowed allows false _
  refine ⟨moved.schema, leaves.schema, ?_⟩
  rw [show first.state.sheet = moved.sheet from leaves.sheet]
  constructor
  · intro repeats
    have settled := settled_of_run resolves completes proper free.symm repeats.success
      (repeats.sheet.trans leaves.sheet)
    exact settled.of_outline outline
  · intro settled
    obtain ⟨success, payload, kept, entries⟩ := run_again resolves completes proper standard blind
      options.stopsAtFailure watch clean (settled.of_outline outline.symm)
    rw [← free] at success payload kept entries
    exact ⟨success, payload.trans (leaves.payload clean).symm, kept.trans leaves.sheet.symm,
      entries⟩

/-- Texts that are moved, an array in normal form, and a default that fills a cell. -/
theorem run_repeats_iff_filledDefault :
    let settings : StandardSettings :=
      { StandardSettings.standard with
        localization := { LocalizationSettings.standard with autoDetect := true } }
    let sheet : Sheet := ⟨"Item",
      [["Name", "Note@Lan", "Tags"], ["string", "string", "string[]"], ["", "", ""],
        ["", "", "new"], [" Iron Sword ", "Sharp", "a , b,"], ["Bow", "", ""]]⟩
    let first := (Pipeline.standard .standard settings).run .least false sheet
    let second := (Pipeline.standard .standard settings).run .least false first.state.sheet
    HasStandardKeys settings ∧ settings.rules.IgnoresMarks ∧ first.success = true ∧
      first.Repeats second ∧
      ∃ schema, first.state.schema = some schema ∧
        first.state.sheet.IsSettled schema.fields := by
  intro settings sheet
  dsimp only
  obtain ⟨schema, left, condition⟩ := run_repeats_iff settings .standard .least .least sheet rfl
    (fun _ => .empty) nofun (by decide +kernel)
  have repeats := condition.mp
    ⟨by decide +kernel, by decide +kernel, by decide +kernel, by decide +kernel⟩
  exact ⟨rfl, .empty, by decide +kernel, condition.mpr repeats, schema, left, repeats⟩

/-- A cell of separators alone is empty after normalization. The second run drops its row, or
fills it with the default. A rule that looks at marks misses that of a field of which no prose
is left. -/
theorem run_not_repeats :
    let first (settings : StandardSettings) (sheet : Sheet) :=
      (Pipeline.standard .standard settings).run .least false sheet
    let second (settings : StandardSettings) (sheet : Sheet) :=
      (Pipeline.standard .standard settings).run .least false (first settings sheet).state.sheet
    let emptied : Sheet := ⟨"Item", [["Tags"], ["string[]"], [""], [""], [","]]⟩
    let refilled : Sheet := ⟨"Item",
      [["Id", "Tags"], ["int", "string[]"], ["", ""], ["", "none"], ["1", ","]]⟩
    let prose : Sheet := ⟨"Item",
      [["Note"], ["string"], [""], [""], ["A sword that was forged a long time ago."]]⟩
    let marked : RowRule :=
      ⟨"marked", .error, fun row =>
        if row.cells.all fun (field, _) => field.isLocalized then none else some "Not localized"⟩
    let watched : StandardSettings :=
      { StandardSettings.standard with
        localization := { LocalizationSettings.standard with
          autoDetect := true, lengthThreshold := 20 }
        rules := RuleSet.empty.addCustom marked }
    (first .standard emptied).success = true ∧
      (second .standard emptied).state.payload ≠ (first .standard emptied).state.payload ∧
      (first .standard refilled).success = true ∧
      (second .standard refilled).state.payload ≠ (first .standard refilled).state.payload ∧
      (first watched prose).success = true ∧ (second watched prose).success = false := by
  decide +kernel

end Standard

end SheetCompiler

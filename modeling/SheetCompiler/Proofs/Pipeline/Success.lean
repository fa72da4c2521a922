import SheetCompiler.Proofs.Pipeline.Completion
import SheetCompiler.Proofs.Pipeline.Processing

/-!
# When the standard pipeline succeeds

A run without a budget succeeds exactly when the sheet has its header, the key pattern
is valid where it is needed, the names of the fields differ, their references are
known, and no rule fails. Faulty cells and everything else only warn.
-/

set_option autoImplicit false

namespace SheetCompiler

namespace Standard

variable {settings : StandardSettings} {nameSpace : String} {stops : Bool} {clock : Clock}
  {sheet source : Sheet} {schema resolved : Schema} {diagnostics : List Diagnostic}
  {moved : LocalizedTable}

/-! ## Single conditions -/

theorem schemaFindings_clean_iff :
    (∀ finding ∈ schemaFindings schema, finding.severity.isFailure = false) ↔
      schema.fieldNames.Nodup := by
  rw [← Schema.duplicateNames_eq_nil_iff]
  unfold schemaFindings
  rw [List.forall_mem_append, List.forall_mem_map]
  constructor
  · rintro ⟨-, clean⟩
    exact List.eq_nil_iff_forall_not_mem.mpr fun name listed => nomatch clean name listed
  · intro none
    rw [none]
    refine ⟨?_, nofun⟩
    split <;> simp [Severity.isFailure]

theorem referenceFindings_clean_iff {known : KnownTypes} :
    (∀ finding ∈ referenceFindings known schema, finding.severity.isFailure = false) ↔
      ∀ target ∈ schema.targetNames, known.contains target = true := by
  unfold referenceFindings Schema.unknownReferences Schema.targetNames
  rw [List.forall_mem_map]
  constructor
  · intro clean name listed
    obtain ⟨field, member, names⟩ := List.mem_filterMap.mp listed
    obtain ⟨target, refers, rfl⟩ := Option.map_eq_some_iff.mp names
    cases contained : known.contains target.typeName with
    | true => rfl
    | false =>
        have reported := clean ⟨field.name, target.typeName, known.describe⟩
          (List.mem_filterMap.mpr ⟨field, member, by rw [refers]; simp [contained]⟩)
        cases reported
  · intro all unknown listed
    obtain ⟨field, member, reported⟩ := List.mem_filterMap.mp listed
    cases refers : field.reference? with
    | none =>
        rw [refers] at reported
        cases reported
    | some target =>
        have contained := all target.typeName
          (List.mem_filterMap.mpr ⟨field, member, Option.map_eq_some_iff.mpr ⟨target, refers, rfl⟩⟩)
        rw [refers] at reported
        dsimp only at reported
        rw [if_pos contained] at reported
        cases reported

theorem ruleFindings_clean_iff {input : ValidationInput} :
    (∀ finding ∈ ruleFindings settings.rules input, finding.severity.isFailure = false) ↔
      ∀ finding ∈ (settings.rules.validate input.schema input.sheet).findings,
        finding.severity.isFailure = false := by
  unfold ruleFindings
  rw [List.forall_mem_append, List.forall_mem_map]
  exact ⟨And.right, fun clean => ⟨fun _ _ => rfl, clean⟩⟩

/-! ## The whole condition -/

theorem resolved_unique {other : Schema} {problems : List Diagnostic}
    (resolves : Schema.ofSheet source nameSpace = .ok (schema, diagnostics))
    (again : Schema.ofSheet source nameSpace = .ok (other, problems)) : other = schema := by
  rw [resolves] at again
  exact (Prod.mk.inj (Except.ok.inj again)).1.symm

/-- What a table must be like for its run to succeed. -/
structure Acceptable (settings : StandardSettings) (nameSpace : String) (sheet : Sheet) : Prop where
  header : Sheet.headerRows ≤ sheet.rowCount
  keyPattern : settings.localization.enabled = true →
    ∃ pattern, Pattern.ofText settings.localization.keyPattern = .ok pattern
  names : ∀ schema diagnostics,
    Schema.ofSheet (cleaned sheet) nameSpace = .ok (schema, diagnostics) →
      schema.fieldNames.Nodup
  targets : ∀ schema diagnostics,
    Schema.ofSheet (cleaned sheet) nameSpace = .ok (schema, diagnostics) →
      ∀ target ∈ schema.targetNames, settings.known.contains target = true
  rules : ∀ schema diagnostics moved,
    Schema.ofSheet (cleaned sheet) nameSpace = .ok (schema, diagnostics) →
      processed settings schema (cleaned sheet) = .ok moved →
        ∀ finding ∈ (settings.rules.validate moved.schema moved.sheet).findings,
          finding.severity.isFailure = false

/-- The failures of a processed table come from its names, its references and its rules. -/
theorem failures_eq_nil_iff (completes : processed settings resolved source = .ok moved) :
    failures settings stops resolved source moved = [] ↔
      resolved.fieldNames.Nodup ∧
      (∀ target ∈ resolved.targetNames, settings.known.contains target = true) ∧
      ∀ finding ∈ (settings.rules.validate moved.schema moved.sheet).findings,
        finding.severity.isFailure = false := by
  have outline := outline_processed completes
  have clean : failures settings stops resolved source moved = [] ↔
      ∀ finding ∈ found settings stops resolved source moved,
        finding.severity.isFailure = false := by
    simp [failures, List.filter_eq_nil_iff]
  rw [clean, found, collected_clean_iff, findings]
  simp only [List.forall_mem_cons, validated]
  rw [schemaFindings_clean_iff, referenceFindings_clean_iff, ruleFindings_clean_iff,
    Schema.fieldNames_eq_of_outline outline, Schema.targetNames_eq_of_outline outline]
  have warnings : ∀ finding ∈ (cellErrors resolved source).map cellFinding,
      finding.severity.isFailure = false :=
    List.forall_mem_map.mpr fun _ _ => rfl
  constructor
  · rintro ⟨names, targets, -, rules, -⟩
    exact ⟨names, targets, rules⟩
  · rintro ⟨names, targets, rules⟩
    exact ⟨names, targets, warnings, rules, nofun⟩

theorem success_iff_failures_eq_nil
    (resolves : Schema.ofSheet (cleaned sheet) nameSpace = .ok (schema, diagnostics))
    (completes : processed settings schema (cleaned sheet) = .ok moved) :
    ((Pipeline.standard ⟨nameSpace, stops, none⟩ settings).run clock false sheet).success = true ↔
      failures settings stops schema (cleaned sheet) moved = [] := by
  have leaves := run_leaves settings nameSpace stops clock resolves completes
  rw [RunReport.success_iff, leaves.fault, leaves.errors, List.map_eq_nil_iff]
  constructor
  · exact And.right
  · intro clean
    exact ⟨if_pos clean, clean⟩

theorem acceptable_iff
    (header : Sheet.headerRows ≤ sheet.rowCount)
    (resolves : Schema.ofSheet (cleaned sheet) nameSpace = .ok (schema, diagnostics))
    (completes : processed settings schema (cleaned sheet) = .ok moved) :
    Acceptable settings nameSpace sheet ↔
      failures settings stops schema (cleaned sheet) moved = [] := by
  rw [failures_eq_nil_iff completes]
  constructor
  · intro acceptable
    exact ⟨acceptable.names schema diagnostics resolves,
      acceptable.targets schema diagnostics resolves,
      acceptable.rules schema diagnostics moved resolves completes⟩
  · rintro ⟨names, targets, rules⟩
    refine ⟨header, (exists_processed_iff settings schema _).mp ⟨moved, completes⟩, ?_, ?_, ?_⟩
    · intro other problems again
      obtain rfl := resolved_unique resolves again
      exact names
    · intro other problems again
      obtain rfl := resolved_unique resolves again
      exact targets
    · intro other problems after again finishes
      obtain rfl := resolved_unique resolves again
      rw [completes] at finishes
      obtain rfl := Except.ok.inj finishes
      exact rules

theorem run_succeeds_iff :
    ((Pipeline.standard ⟨nameSpace, stops, none⟩ settings).run clock false sheet).success = true ↔
      Acceptable settings nameSpace sheet := by
  by_cases header : Sheet.headerRows ≤ sheet.rowCount
  · obtain ⟨schema, diagnostics, resolves⟩ :=
      exists_resolved nameSpace (decide_eq_true header)
    cases completes : processed settings schema (cleaned sheet) with
    | ok moved =>
        exact (success_iff_failures_eq_nil resolves completes).trans
          (acceptable_iff header resolves completes).symm
    | error fault =>
        have stopped := run_invalidPattern settings nameSpace stops clock resolves completes
        rw [RunReport.success_iff, stopped]
        constructor
        · rintro ⟨none, -⟩
          cases none
        · intro acceptable
          obtain ⟨moved, finishes⟩ :=
            (exists_processed_iff settings schema (cleaned sheet)).mpr acceptable.keyPattern
          rw [completes] at finishes
          cases finishes
  · obtain ⟨shortage, fails⟩ :=
      exists_shortage nameSpace (decide_eq_false header : sheet.hasHeader = false)
    have stopped := run_shortage settings nameSpace stops clock fails
    rw [RunReport.success_iff, stopped]
    constructor
    · rintro ⟨none, -⟩
      cases none
    · intro acceptable
      exact absurd acceptable.header header

/-- No standard processor cancels a run. -/
theorem cancelled_run (settings : StandardSettings) (nameSpace : String) (stops : Bool)
    (clock : Clock) (cancelled : Bool) (sheet : Sheet) :
    ((Pipeline.standard ⟨nameSpace, stops, none⟩ settings).run clock cancelled
      sheet).state.cancelled = cancelled := by
  cases cancelled with
  | true => rfl
  | false =>
      cases header : sheet.hasHeader with
      | true =>
          obtain ⟨schema, diagnostics, resolves⟩ := exists_resolved nameSpace header
          cases completes : processed settings schema (cleaned sheet) with
          | ok moved =>
              exact (run_leaves settings nameSpace stops clock resolves completes).cancelled
          | error fault =>
              obtain ⟨_, _, _, stopped, -⟩ :=
                run_invalidPattern_leaves settings nameSpace stops clock resolves completes
              rw [stopped]
              rfl
      | false =>
          obtain ⟨shortage, fails⟩ := exists_shortage nameSpace header
          obtain ⟨_, _, _, stopped, -⟩ :=
            run_shortage_leaves settings nameSpace stops clock fails
          rw [stopped]
          rfl

/-- A run that succeeds, with whatever budget, has resolved and processed its table, found
no failure, and left behind what is determined by them. -/
theorem exists_leaves_of_success {options : RunOptions} {cancelled : Bool}
    (succeeds : ((Pipeline.standard options settings).run clock cancelled sheet).success = true) :
    ∃ schema diagnostics moved,
      Schema.ofSheet (cleaned sheet) options.nameSpace = .ok (schema, diagnostics) ∧
      processed settings schema (cleaned sheet) = .ok moved ∧
      failures settings options.stopsAtFailure schema (cleaned sheet) moved = [] ∧
      Leaves settings options.stopsAtFailure schema (cleaned sheet) diagnostics moved
        ((Pipeline.standard options settings).run clock cancelled sheet) := by
  have completed := (RunReport.success_iff.mp succeeds).1
  cases cancelled with
  | true =>
      rw [Pipeline.fault_run_cancelled] at completed
      cases completed
  | false =>
      -- no budget stopped this run, so it is the run without one
      have free := Pipeline.run_unlimited clock completed
      change (Pipeline.standard ⟨options.nameSpace, options.stopsAtFailure, none⟩ settings).run
        clock false sheet = _ at free
      rw [← free] at succeeds ⊢
      have acceptable := run_succeeds_iff.mp succeeds
      obtain ⟨schema, diagnostics, resolves⟩ :=
        exists_resolved options.nameSpace (decide_eq_true acceptable.header)
      obtain ⟨moved, completes⟩ :=
        (exists_processed_iff settings schema (cleaned sheet)).mpr acceptable.keyPattern
      exact ⟨schema, diagnostics, moved, resolves, completes,
        (acceptable_iff acceptable.header resolves completes).mp acceptable,
        run_leaves settings options.nameSpace options.stopsAtFailure clock resolves completes⟩

/-- A run without a budget succeeds exactly on an acceptable table, and exactly when it
leaves no error. The rules are those on the schema and the sheet at the end of the run. -/
theorem success_iff_acceptable (settings : StandardSettings) (nameSpace : String) (stops : Bool)
    (clock : Clock) (sheet : Sheet) :
    let report := (Pipeline.standard ⟨nameSpace, stops, none⟩ settings).run clock false sheet
    (report.success = true ↔ Acceptable settings nameSpace sheet) ∧
    (report.success = true ↔ report.errors = []) ∧
    ∀ schema diagnostics moved,
      Schema.ofSheet (cleaned sheet) nameSpace = .ok (schema, diagnostics) →
        processed settings schema (cleaned sheet) = .ok moved →
          report.state.schema = some moved.schema ∧ report.state.sheet = moved.sheet := by
  intro report
  refine ⟨run_succeeds_iff, RunReport.success_iff_errors_eq_nil, ?_⟩
  intro schema diagnostics moved resolves completes
  have leaves := run_leaves settings nameSpace stops clock resolves completes
  exact ⟨leaves.schema, leaves.sheet⟩

/-- A table with a known reference and a text that is moved succeeds. -/
theorem success_iff_acceptable_reference :
    let settings : StandardSettings := ⟨.ofList ["Buff"], .standard, .empty, []⟩
    let sheet : Sheet := ⟨"Item",
      [["Gives@Ref_Buff", "Label@Lan"], ["int", "string"], ["", ""], ["", ""], ["1", "Sword"]]⟩
    let report := (Pipeline.standard ⟨"Game", false, none⟩ settings).run .least false sheet
    Acceptable settings "Game" sheet ∧ report.errors = [] ∧
      ∃ moved : LocalizedTable,
        report.state.schema = some moved.schema ∧ report.state.sheet = moved.sheet := by
  intro settings sheet
  dsimp only
  obtain ⟨condition, quiet, final⟩ := success_iff_acceptable settings "Game" false .least sheet
  have acceptable := condition.mp (by decide +kernel)
  obtain ⟨schema, diagnostics, resolves⟩ :=
    exists_resolved "Game" (decide_eq_true acceptable.header)
  obtain ⟨moved, completes⟩ :=
    (exists_processed_iff settings schema (cleaned sheet)).mpr acceptable.keyPattern
  exact ⟨acceptable, quiet.mp (condition.mpr acceptable), moved,
    final schema diagnostics moved resolves completes⟩

end Standard

end SheetCompiler

import Mathlib.Algebra.GroupWithZero.Nat
import SheetCompiler.Proofs.Validation.Report

/-!
# The accounts of a report

However a report is put together by pushing findings and merging reports, it is the report on
the list of its findings. Its flag, its two tallies and its failures are read off that list, so
they never disagree, and merging is joining the lists.
-/

set_option autoImplicit false

namespace SheetCompiler

namespace Tally

variable {α : Type} [DecidableEq α] {tally : Tally α} {items : List α}

/-- A tally of the occurrences in a list: each item that occurs has one entry. -/
structure Counts (tally : Tally α) (items : List α) : Prop where
  distinct : (tally.entries.map Prod.fst).Nodup
  keys : ∀ key, key ∈ tally.entries.map Prod.fst ↔ key ∈ items
  count : ∀ key, tally.count key = items.count key
  total : (tally.entries.map Prod.snd).sum = items.length

theorem counts_empty : (empty : Tally α).Counts [] where
  distinct := .nil
  keys _ := Iff.rfl
  count _ := rfl
  total := rfl

theorem mem_keys_incrementIn (key other : α) (entries : List (α × Nat)) :
    other ∈ (incrementIn key entries).map Prod.fst ↔
      other ∈ entries.map Prod.fst ∨ other = key := by
  induction entries with
  | nil => simp [incrementIn]
  | cons entry entries ih =>
      obtain ⟨first, n⟩ := entry
      by_cases same : first = key
      · subst same
        simp only [incrementIn, if_true, List.map_cons, List.mem_cons]
        exact ⟨.inl, fun listed => listed.elim id .inl⟩
      · simp only [incrementIn, if_neg same, List.map_cons, List.mem_cons, ih, or_assoc]

theorem nodup_keys_incrementIn (key : α) {entries : List (α × Nat)}
    (distinct : (entries.map Prod.fst).Nodup) :
    ((incrementIn key entries).map Prod.fst).Nodup := by
  induction entries with
  | nil => simp [incrementIn]
  | cons entry entries ih =>
      obtain ⟨first, n⟩ := entry
      obtain ⟨fresh, distinct⟩ := List.nodup_cons.mp distinct
      by_cases same : first = key
      · simp only [incrementIn, if_pos same, List.map_cons, List.nodup_cons]
        exact ⟨fresh, distinct⟩
      · simp only [incrementIn, if_neg same, List.map_cons, List.nodup_cons,
          mem_keys_incrementIn, not_or]
        exact ⟨⟨fresh, same⟩, ih distinct⟩

theorem sum_incrementIn (key : α) (entries : List (α × Nat)) :
    ((incrementIn key entries).map Prod.snd).sum = (entries.map Prod.snd).sum + 1 := by
  induction entries with
  | nil => simp [incrementIn]
  | cons entry entries ih =>
      obtain ⟨first, n⟩ := entry
      by_cases same : first = key
      · simp only [incrementIn, if_pos same, List.map_cons, List.sum_cons]
        omega
      · simp only [incrementIn, if_neg same, List.map_cons, List.sum_cons, ih]
        omega

theorem Counts.increment (counts : tally.Counts items) (key : α) :
    (tally.increment key).Counts (items ++ [key]) where
  distinct := nodup_keys_incrementIn key counts.distinct
  keys other := by
    rw [Tally.increment, mem_keys_incrementIn, counts.keys, List.mem_append, List.mem_singleton]
  count other := by
    rw [count_increment, counts.count, List.count_append, List.count_singleton]
    simp only [beq_iff_eq]
  total := by
    rw [Tally.increment, sum_incrementIn, counts.total, List.length_append, List.length_singleton]

end Tally

namespace ValidationReport

variable {report : ValidationReport}

/-- What a report says beside its findings is true of them. -/
structure IsAccurate (report : ValidationReport) : Prop where
  valid : report.isValid = true ↔
    ∀ finding ∈ report.findings, finding.severity ≠ .error ∧ finding.severity ≠ .critical
  severities : report.severities.Counts (report.findings.map Finding.severity)
  types : report.types.Counts (report.findings.map Finding.type)
  failures : report.failureCount = report.failures.length

theorem isFailure_eq_false_iff (severity : Severity) :
    severity.isFailure = false ↔ severity ≠ .error ∧ severity ≠ .critical := by
  cases severity <;> simp [Severity.isFailure]

theorem isAccurate_empty : empty.IsAccurate where
  valid := ⟨fun _ => nofun, fun _ => rfl⟩
  severities := Tally.counts_empty
  types := Tally.counts_empty
  failures := rfl

theorem IsAccurate.push (accurate : report.IsAccurate) (finding : Finding) :
    (report.push finding).IsAccurate where
  valid := by
    have own := isFailure_eq_false_iff finding.severity
    simp only [ValidationReport.push, Bool.and_eq_true, Bool.not_eq_true', List.forall_mem_append,
      List.forall_mem_singleton, accurate.valid, own]
  severities := by
    simpa [ValidationReport.push] using accurate.severities.increment finding.severity
  types := by
    simpa [ValidationReport.push] using accurate.types.increment finding.type
  failures := by
    have counted := failureCount_pushAll report [finding]
    have listed : (report.push finding).failures = report.failures ++
        [finding].filter fun finding => finding.severity.isFailure := List.filter_append ..
    rw [listed, List.length_append, ← accurate.failures, ← List.countP_eq_length_filter]
    exact counted

theorem IsAccurate.pushAll (accurate : report.IsAccurate) (findings : List Finding) :
    (report.pushAll findings).IsAccurate := by
  induction findings generalizing report with
  | nil => exact accurate
  | cons finding findings ih => exact ih (accurate.push finding)

theorem merge_assoc (first second third : ValidationReport) :
    (first.merge second).merge third = first.merge (second.merge third) := by
  simp only [merge, findings_pushAll, pushAll_append]

end ValidationReport

/-- How a report is put together. -/
inductive ReportHistory where
  | empty
  | push (history : ReportHistory) (finding : Finding)
  | merge (history other : ReportHistory)

namespace ReportHistory

def report : ReportHistory → ValidationReport
  | empty => .empty
  | push history finding => history.report.push finding
  | merge history other => history.report.merge other.report

/-- The findings in the order in which they come into the report. -/
def findings : ReportHistory → List Finding
  | empty => []
  | push history finding => history.findings ++ [finding]
  | merge history other => history.findings ++ other.findings

/-- The findings alone make the report, whatever pushes and merges brought them in. -/
theorem report_eq (history : ReportHistory) : history.report = .ofFindings history.findings := by
  induction history with
  | empty => rfl
  | push history finding ih =>
      rw [report, findings, ih, ValidationReport.ofFindings, ValidationReport.ofFindings,
        ValidationReport.pushAll_append]
      rfl
  | merge history other ihHistory ihOther =>
      rw [report, findings, ihHistory, ihOther, ValidationReport.merge,
        ValidationReport.findings_ofFindings, ValidationReport.ofFindings,
        ValidationReport.ofFindings, ValidationReport.pushAll_append]

/-- A report that is put together by pushes and merges accounts for its findings, and merging
is pushing the joined lists: it is associative, and the empty report changes nothing. -/
theorem report_accurate (history other another : ReportHistory) :
    let report := history.report
    report.findings = history.findings ∧
      report.IsAccurate ∧
      report.merge other.report = .ofFindings (history.findings ++ other.findings) ∧
      (report.merge other.report).merge another.report =
        report.merge (other.report.merge another.report) ∧
      ValidationReport.empty.merge report = report ∧
      report.merge .empty = report := by
  have same := history.report_eq
  have listed : history.report.findings = history.findings := by
    rw [same, ValidationReport.findings_ofFindings]
  refine ⟨listed, ?_, (merge history other).report_eq, ValidationReport.merge_assoc _ _ _, ?_, rfl⟩
  · rw [same]
    exact ValidationReport.isAccurate_empty.pushAll history.findings
  · change ValidationReport.ofFindings history.report.findings = history.report
    rw [listed, same]

end ReportHistory

end SheetCompiler

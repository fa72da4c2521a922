import SheetCompiler.Validation.Finding

/-!
# Reports as lists of findings

A report is determined by the findings that were pushed: its flag, its counts and
its failures are read off the list.
-/

set_option autoImplicit false

namespace SheetCompiler

namespace Tally

variable {α : Type} [DecidableEq α]

theorem count_incrementIn (key other : α) (entries : List (α × Nat)) :
    count ⟨incrementIn key entries⟩ other =
      count ⟨entries⟩ other + if key = other then 1 else 0 := by
  induction entries with
  | nil => by_cases same : key = other <;> simp [count, incrementIn, same]
  | cons entry entries ih =>
      obtain ⟨first, n⟩ := entry
      unfold count at ih
      by_cases counted : first = key
      · subst counted
        by_cases same : first = other <;> simp [count, incrementIn, same]
      · by_cases found : first = other
        · subst found
          simp [count, incrementIn, counted, Ne.symm counted]
        · simpa [count, incrementIn, counted, found] using ih

theorem count_increment (tally : Tally α) (key other : α) :
    (tally.increment key).count other = tally.count other + if key = other then 1 else 0 :=
  count_incrementIn key other tally.entries

end Tally

namespace ValidationReport

theorem pushAll_cons (report : ValidationReport) (finding : Finding) (findings : List Finding) :
    report.pushAll (finding :: findings) = (report.push finding).pushAll findings := rfl

theorem pushAll_append (report : ValidationReport) (former later : List Finding) :
    report.pushAll (former ++ later) = (report.pushAll former).pushAll later :=
  List.foldl_append

@[simp] theorem findings_pushAll (report : ValidationReport) (findings : List Finding) :
    (report.pushAll findings).findings = report.findings ++ findings := by
  induction findings generalizing report with
  | nil => simp [pushAll]
  | cons finding findings ih =>
      rw [pushAll_cons, ih]
      simp [push]

@[simp] theorem findings_ofFindings (findings : List Finding) :
    (ofFindings findings).findings = findings := by
  simp [ofFindings, empty]

/-- A report stays valid as long as no failure is pushed. -/
theorem isValid_pushAll (report : ValidationReport) (findings : List Finding) :
    (report.pushAll findings).isValid =
      (report.isValid && !findings.any fun finding => finding.severity.isFailure) := by
  induction findings generalizing report with
  | nil => simp [pushAll]
  | cons finding findings ih =>
      rw [pushAll_cons, ih, push, List.any_cons, Bool.not_or, Bool.and_assoc]

theorem isValid_ofFindings (findings : List Finding) :
    (ofFindings findings).isValid =
      !findings.any fun finding => finding.severity.isFailure := by
  rw [ofFindings, isValid_pushAll]
  rfl

theorem count_pushAll (report : ValidationReport) (findings : List Finding) (severity : Severity) :
    (report.pushAll findings).count severity =
      report.count severity + findings.countP fun finding => finding.severity == severity := by
  induction findings generalizing report with
  | nil => simp [pushAll]
  | cons finding findings ih =>
      have pushed : (report.push finding).count severity =
          report.count severity + if finding.severity = severity then 1 else 0 :=
        Tally.count_increment _ _ _
      rw [pushAll_cons, ih, pushed, List.countP_cons]
      by_cases same : finding.severity = severity
      · simp [same]
        omega
      · simp [same]

/-- The failures of a report are its findings of the two highest ranks. -/
theorem failureCount_pushAll (report : ValidationReport) (findings : List Finding) :
    (report.pushAll findings).failureCount =
      report.failureCount + findings.countP fun finding => finding.severity.isFailure := by
  have split : (findings.countP fun finding => finding.severity.isFailure) =
      (findings.countP fun finding => finding.severity == .error) +
        findings.countP fun finding => finding.severity == .critical := by
    induction findings with
    | nil => rfl
    | cons finding findings ih =>
        rw [List.countP_cons, List.countP_cons, List.countP_cons, ih]
        cases finding.severity <;> simp [Severity.isFailure] <;> omega
  rw [failureCount, count_pushAll, count_pushAll, split, failureCount]
  omega

theorem failureCount_empty : empty.failureCount = 0 := rfl

end ValidationReport

end SheetCompiler

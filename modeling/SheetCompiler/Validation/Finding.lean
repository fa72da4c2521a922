import SheetCompiler.Severity
import SheetCompiler.Value

/-!
# Findings

What the rules find in the rows of a table, and the report that collects it. A
report counts its findings by severity and by type, and it is valid as long as
none of them is a failure.
-/

set_option autoImplicit false

namespace SheetCompiler

/-- A problem with a field, a row or the whole table. Rows are counted from the top
of the sheet. -/
structure Finding where
  field : Option String
  row : Option Nat
  message : String
  type : String
  severity : Severity
  deriving DecidableEq, Repr

/-- The line of a finding; its row is counted from one. -/
def Finding.display (finding : Finding) : String :=
  let row := (finding.row.map fun row => s!"row {Value.displayNat (row + 1)} ").getD ""
  let field := (finding.field.map fun field => s!"field '{field}' ").getD ""
  s!"[{finding.severity.name}] {row}{field}({finding.type}): {finding.message}"

/-- Numbers of occurrences by key. A key that does not occur has no entry. -/
structure Tally (α : Type) where
  entries : List (α × Nat)
  deriving DecidableEq, Repr

namespace Tally

variable {α : Type} [DecidableEq α]

def empty : Tally α := ⟨[]⟩

def count (tally : Tally α) (key : α) : Nat :=
  ((tally.entries.find? fun entry => entry.1 == key).map (·.2)).getD 0

/-- Counts one more occurrence of a key. -/
def incrementIn (key : α) : List (α × Nat) → List (α × Nat)
  | [] => [(key, 1)]
  | (other, n) :: entries =>
      if other = key then (other, n + 1) :: entries else (other, n) :: incrementIn key entries

def increment (tally : Tally α) (key : α) : Tally α := ⟨incrementIn key tally.entries⟩

end Tally

structure ValidationReport where
  isValid : Bool
  findings : List Finding
  severities : Tally Severity
  types : Tally String
  deriving DecidableEq, Repr

namespace ValidationReport

def empty : ValidationReport := ⟨true, [], .empty, .empty⟩

def push (report : ValidationReport) (finding : Finding) : ValidationReport :=
  { isValid := report.isValid && !finding.severity.isFailure
    findings := report.findings ++ [finding]
    severities := report.severities.increment finding.severity
    types := report.types.increment finding.type }

def pushAll (report : ValidationReport) (findings : List Finding) : ValidationReport :=
  findings.foldl push report

/-- Adds the findings of another report. -/
def merge (report other : ValidationReport) : ValidationReport := report.pushAll other.findings

def ofFindings (findings : List Finding) : ValidationReport := empty.pushAll findings

def count (report : ValidationReport) (severity : Severity) : Nat :=
  report.severities.count severity

def failureCount (report : ValidationReport) : Nat := report.count .error + report.count .critical

def failures (report : ValidationReport) : List Finding :=
  report.findings.filter fun finding => finding.severity.isFailure

end ValidationReport

end SheetCompiler

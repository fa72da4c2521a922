import SheetCompiler.CodeFile
import SheetCompiler.Localization.Table
import SheetCompiler.Normalization
import SheetCompiler.Pipeline.Fault
import SheetCompiler.Relation
import SheetCompiler.Validation.Finding

/-!
# Processors

The parts of a pipeline. A processor of a stage sees and changes what that stage
lets it, writes to the log of the run, and may set its cancellation. What it did
before it failed stays done.
-/

set_option autoImplicit false

namespace SheetCompiler

/-- Messages of a run in the order in which they were written. -/
structure RunLog where
  notes : List String
  warnings : List String
  errors : List String
  deriving DecidableEq, Repr

namespace RunLog

def empty : RunLog := ⟨[], [], []⟩

def note (log : RunLog) (message : String) : RunLog :=
  { log with notes := log.notes ++ [message] }

def warn (log : RunLog) (message : String) : RunLog :=
  { log with warnings := log.warnings ++ [message] }

def error (log : RunLog) (message : String) : RunLog :=
  { log with errors := log.errors ++ [message] }

def append (log other : RunLog) : RunLog :=
  ⟨log.notes ++ other.notes, log.warnings ++ other.warnings, log.errors ++ other.errors⟩

end RunLog

/-- How a call of a processor ends. -/
inductive Ending (α : Type) where
  | done (answer : α)
  | failed (fault : CallFault)
  | crashed (crash : Crash)
  deriving Repr

/-- What a call leaves behind: a state, whether it has set the cancellation, and how
it ended. -/
structure Call (σ α : Type) where
  state : σ
  cancels : Bool
  ending : Ending α

namespace Call

/-- A call that completes. -/
def complete {σ α : Type} (state : σ) (answer : α) : Call σ α := ⟨state, false, .done answer⟩

end Call

/-- A processor of any stage: what it reads, what it changes, and what it answers.
Processors of lower priority numbers run first. -/
structure Processor (ι σ α : Type) where
  name : String
  priority : Int
  call : ι → σ → Call σ α

/-- What processors of raw sheets change. -/
structure RawState where
  sheet : Sheet
  log : RunLog
  deriving DecidableEq, Repr

/-- What processors of data change. -/
structure DataState where
  schema : Schema
  sheet : Sheet
  cellErrors : List CellError
  relations : List Relation
  localization : LocalizationTable
  log : RunLog
  deriving DecidableEq, Repr

/-- What validators read. -/
structure ValidationInput where
  schema : Schema
  sheet : Sheet
  cellErrors : List CellError
  relations : List Relation
  deriving DecidableEq, Repr

/-- What processors of results read. -/
structure PostInput where
  schema : Schema
  sheet : Sheet
  validation : ValidationReport
  deriving DecidableEq, Repr

/-- What processors of results change. -/
structure PostState where
  payload : List UInt8
  log : RunLog
  deriving DecidableEq, Repr

abbrev PreProcessor := Processor Unit RawState Unit

/-- A code generator writes to a log of its own. -/
abbrev CodeGenerator := Processor Schema RunLog (List CodeFile)

abbrev DataProcessor := Processor Unit DataState Unit

abbrev Validator := Processor ValidationInput Unit ValidationReport

abbrev PostProcessor := Processor PostInput PostState Unit

namespace Processor

variable {ι σ α : Type}

/-- Puts a processor behind those that run before it or with it. -/
def insert (processor : Processor ι σ α) : List (Processor ι σ α) → List (Processor ι σ α)
  | [] => [processor]
  | other :: others =>
      if processor.priority < other.priority then processor :: other :: others
      else other :: insert processor others

end Processor

end SheetCompiler

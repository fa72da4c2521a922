import SheetCompiler.Schema.Resolution
import SheetCompiler.Value

/-!
# Faults of a run

Why a call of a processor or a whole run does not complete.
-/

set_option autoImplicit false

namespace SheetCompiler

/-- The stages of a run in their order. -/
inductive Stage where
  | preProcess
  | codeGeneration
  | dataProcess
  | validate
  | postProcess
  deriving DecidableEq, Repr

namespace Stage

def all : List Stage := [.preProcess, .codeGeneration, .dataProcess, .validate, .postProcess]

def name : Stage → String
  | preProcess => "pre-process"
  | codeGeneration => "code-generation"
  | dataProcess => "data-process"
  | validate => "validate"
  | postProcess => "post-process"

end Stage

/-- A length of time in nanoseconds. -/
structure Elapsed where
  nanoseconds : Nat
  deriving DecidableEq, Repr

namespace Elapsed

def ofMilliseconds (n : Nat) : Elapsed := ⟨n * 1000000⟩

/-- `n / unit` in decimal, without zeros at the end. The unit is a power of ten with
`places` zeros. -/
def decimal (n unit places : Nat) : String :=
  let fraction := Nat.toDigits 10 (n % unit)
  let padded := List.replicate (places - fraction.length) '0' ++ fraction
  let kept := Text.dropEndWhile (· == '0') padded
  let point := if kept.isEmpty then "" else "." ++ String.ofList kept
  Value.displayNat (n / unit) ++ point

/-- The time in the largest unit that it fills. -/
def display (time : Elapsed) : String :=
  let n := time.nanoseconds
  if 1000000000 ≤ n then decimal n 1000000000 9 ++ "s"
  else if 1000000 ≤ n then decimal n 1000000 6 ++ "ms"
  else if 1000 ≤ n then decimal n 1000 3 ++ "µs"
  else decimal n 1 0 ++ "ns"

end Elapsed

/-- What a processor that crashes leaves behind. -/
inductive Crash where
  | message (text : String)
  | unknown
  deriving DecidableEq, Repr

def Crash.text : Crash → String
  | message text => text
  | unknown => "unknown panic payload"

/-- Why a call of a processor did not complete. -/
inductive CallFault where
  | headerShortage (shortage : HeaderShortage)
  | failed (processor message : String)
  | crashed (processor : String) (crash : Crash)
  deriving DecidableEq, Repr

def CallFault.message : CallFault → String
  | headerShortage shortage => shortage.message
  | failed processor message => s!"Processor '{processor}' failed: {message}"
  | crashed processor crash => s!"Processor '{processor}' panicked: {crash.text}"

/-- Why a run stopped before its end. -/
inductive RunFault where
  | call (stage : Stage) (fault : CallFault)
  | validation (failures : Nat)
  | cancelled (stage : Stage)
  | overBudget (stage : Stage) (elapsed budget : Elapsed)
  deriving DecidableEq, Repr

namespace RunFault

def message : RunFault → String
  | call stage fault => s!"Stage {stage.name} failed: {fault.message}"
  | validation failures => s!"Validation failed with {Value.displayNat failures} error(s)"
  | cancelled stage => s!"Run cancelled before stage {stage.name}"
  | overBudget stage elapsed budget =>
      s!"Stage {stage.name} exceeded its time budget ({elapsed.display} > {budget.display})"

/-- The stage where the run stopped. -/
def stage : RunFault → Stage
  | call stage _ | cancelled stage | overBudget stage .. => stage
  | validation _ => .validate

end RunFault

end SheetCompiler

import SheetCompiler.Pipeline

/-!
# Courses of runs

What comes to a run from outside: the time that its stages take, and a cancellation while it
goes on. A run looks for a cancellation before each stage and before each call in a stage, so
of a cancellation nothing counts but where the run looks next.
-/

set_option autoImplicit false

namespace SheetCompiler

/-- The stages that come before a stage. -/
def Stage.before (stage : Stage) : List Stage := Stage.all.takeWhile (· != stage)

/-- Where a run looks for a cancellation. The calls of a stage are counted from zero, and the
last one of the first stage resolves the schema. -/
inductive Checkpoint where
  | beforeStage (stage : Stage)
  | beforeCall (stage : Stage) (index : Nat)
  deriving DecidableEq, Repr

def Checkpoint.stage : Checkpoint → Stage
  | beforeStage stage | beforeCall stage _ => stage

/-- The course of a run: how long its stages take, and where it sees a cancellation from
outside, if one comes. -/
structure RunCourse where
  clock : Clock
  interruption : Option Checkpoint

/-- A run to which no cancellation comes. -/
def RunCourse.calm (clock : Clock) : RunCourse := ⟨clock, none⟩

namespace Pipeline

/-- How many calls a stage makes when all of them complete. -/
def callCount (pipeline : Pipeline) (stage : Stage) : Nat :=
  (pipeline.processorNames stage).length + if stage = .preProcess then 1 else 0

/-- The first processors of one stage at work. -/
def firstCalls (pipeline : Pipeline) (state : RunState) (count : Nat) :
    Stage → RunState × Except RunFault Unit
  | .preProcess => state.preProcess (pipeline.pre.take count)
  | .codeGeneration => state.generateCode (pipeline.generators.take count)
  | .dataProcess => state.processData (pipeline.data.take count)
  | .validate =>
      let (state, outcome) := state.callValidators pipeline.options.stopsAtFailure .empty
        (pipeline.validators.take count)
      (state, outcome.map fun _ => ())
  | .postProcess => state.postProcess (pipeline.post.take count)

/-- The state in which a stage comes to one of its calls, if it does: the calls before it have
been made, which validators may have been spared, and have completed. -/
def stateBeforeCall? (pipeline : Pipeline) (state : RunState) (stage : Stage) (index : Nat) :
    Option RunState :=
  match pipeline.firstCalls state index stage with
  | (after, .ok ()) =>
      if index < pipeline.callCount stage ∧ after.started.length = state.started.length + index then
        some after
      else none
  | (_, .error _) => none

/-- The state in which a run looks for a cancellation at a checkpoint, if it gets there. A run
that a processor has cancelled does not get past the start of the next stage, and a stage that
is cancelled has ended. -/
def stateAt? (pipeline : Pipeline) (clock : Clock) (cancelled : Bool) (sheet : Sheet)
    (checkpoint : Checkpoint) : Option RunState :=
  match pipeline.runStages clock sheet.name (.initial sheet cancelled) checkpoint.stage.before with
  | (_, .error _) => none
  | (state, .ok ()) =>
      if state.cancelled then none
      else
        match checkpoint with
        | .beforeStage _ => some state
        | .beforeCall stage index =>
            (pipeline.stateBeforeCall? state stage index).map fun state =>
              { state with timed := state.timed ++ [stage] }

/-- Runs a sheet through all stages in a course of events. Where the run sees a cancellation
from outside it stops, and what it has done stays done. A run that never looks there sees
none. -/
def runAmid (pipeline : Pipeline) (course : RunCourse) (cancelled : Bool) (sheet : Sheet) :
    RunReport :=
  match course.interruption with
  | none => pipeline.run course.clock cancelled sheet
  | some checkpoint =>
      match pipeline.stateAt? course.clock cancelled sheet checkpoint with
      | none => pipeline.run course.clock cancelled sheet
      | some state =>
          ⟨sheet.name, { state with cancelled := true }, some (.cancelled checkpoint.stage)⟩

variable {pipeline : Pipeline} {course : RunCourse} {cancelled : Bool} {sheet : Sheet}

/-- A run ends at an interruption, or it is a run without one. -/
theorem runAmid_cases (pipeline : Pipeline) (course : RunCourse) (cancelled : Bool)
    (sheet : Sheet) :
    (∃ checkpoint state, pipeline.stateAt? course.clock cancelled sheet checkpoint = some state ∧
      pipeline.runAmid course cancelled sheet =
        ⟨sheet.name, { state with cancelled := true }, some (.cancelled checkpoint.stage)⟩) ∨
    pipeline.runAmid course cancelled sheet = pipeline.run course.clock cancelled sheet := by
  unfold runAmid
  split
  · exact .inr rfl
  · split <;> rename_i reached
    · exact .inr rfl
    · exact .inl ⟨_, _, reached, rfl⟩

/-- A run that succeeds has seen no cancellation. -/
theorem runAmid_eq_run_of_success
    (succeeds : (pipeline.runAmid course cancelled sheet).success = true) :
    pipeline.runAmid course cancelled sheet = pipeline.run course.clock cancelled sheet := by
  rcases pipeline.runAmid_cases course cancelled sheet with ⟨_, _, _, ends⟩ | calm
  · rw [ends] at succeeds
    cases succeeds
  · exact calm

end Pipeline

end SheetCompiler

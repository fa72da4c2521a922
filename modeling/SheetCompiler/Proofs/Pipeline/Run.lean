import SheetCompiler.Pipeline

/-!
# Runs of pipelines

How single calls and stages add up to a run. A budget can only stop a run: one that
completes under a budget is the same run without it, on every clock.
-/

set_option autoImplicit false

namespace SheetCompiler

namespace RunState

variable {σ α : Type} {stage : Stage} {name : String} {state : RunState}
  {call : Unit → Call σ α} {store : σ → RunState → RunState}

/-- A run that is not cancelled makes its next call, however it ends. -/
theorem invoke_going (going : state.cancelled = false) :
    state.invoke stage name call store =
      let called := call ()
      let after := store called.state { state with started := state.started ++ [(stage, name)] }
      let after := { after with cancelled := called.cancels }
      match called.ending with
      | .done answer => (after, .ok answer)
      | .failed fault => (after, .error (.call stage fault))
      | .crashed crash => (after, .error (.call stage (.crashed name crash))) := by
  have open_ : ¬ state.cancelled = true := by rw [going]; exact Bool.false_ne_true
  exact if_neg open_

end RunState

/-- No stage takes longer than the budget allows. -/
def RunOptions.Allows (options : RunOptions) (clock : Clock) : Prop :=
  ∀ budget, options.stageBudget = some budget →
    ∀ stage, (clock stage).nanoseconds ≤ budget.nanoseconds

namespace Pipeline

variable {pipeline : Pipeline} {clock : Clock} {table : String} {state next : RunState}
  {stage : Stage} {stages : List Stage} {fault : RunFault}

theorem runStage_eq (clock : Clock) {outcome : Except RunFault Unit}
    (going : state.cancelled = false) (unlimited : pipeline.options.stageBudget = none)
    (work : pipeline.workOf table state stage = (next, outcome)) :
    pipeline.runStage clock table state stage =
      ({ next with timed := next.timed ++ [stage] }, outcome) := by
  have open_ : ¬ state.cancelled = true := by rw [going]; exact Bool.false_ne_true
  rw [runStage, if_neg open_, work, unlimited]
  cases outcome <;> rfl

/-- The schema is resolved from what the processors of the raw sheet leave behind. -/
theorem workOf_preProcess (table : String) (ran : state.preProcess pipeline.pre = (next, .ok ())) :
    pipeline.workOf table state .preProcess =
      next.resolveSchema pipeline.options.nameSpace table := by
  rw [workOf, ran]

theorem runStages_cons_ok (ran : pipeline.runStage clock table state stage = (next, .ok ())) :
    pipeline.runStages clock table state (stage :: stages) =
      pipeline.runStages clock table next stages := by
  rw [runStages, ran]

theorem runStages_cons_error
    (ran : pipeline.runStage clock table state stage = (next, .error fault)) :
    pipeline.runStages clock table state (stage :: stages) = (next, .error fault) := by
  rw [runStages, ran]

/-! ## Budgets -/

/-- The same processors without a budget. -/
def unlimited (pipeline : Pipeline) : Pipeline :=
  { pipeline with options := { pipeline.options with stageBudget := none } }

theorem workOf_unlimited (pipeline : Pipeline) :
    pipeline.unlimited.workOf table state stage = pipeline.workOf table state stage := by
  cases stage <;> rfl

theorem runStage_unlimited (other : Clock)
    (ran : pipeline.runStage clock table state stage = (next, .ok ())) :
    pipeline.unlimited.runStage other table state stage = (next, .ok ()) := by
  unfold runStage at ran
  split at ran
  · cases ran
  · rename_i going
    cases work : pipeline.workOf table state stage with
    | mk after outcome =>
        rw [work] at ran
        have free := runStage_eq other (Bool.eq_false_iff.mpr going) rfl
          ((workOf_unlimited pipeline).trans work)
        cases outcome with
        | error fault => cases ran
        | ok answer =>
            cases budget : pipeline.options.stageBudget with
            | none =>
                rw [budget] at ran
                exact free.trans ran
            | some limit =>
                rw [budget] at ran
                dsimp only at ran
                split at ran
                · cases ran
                · exact free.trans ran

theorem runStages_unlimited (other : Clock)
    (ran : pipeline.runStages clock table state stages = (next, .ok ())) :
    pipeline.unlimited.runStages other table state stages = (next, .ok ()) := by
  induction stages generalizing state with
  | nil => exact ran
  | cons stage stages ih =>
      rw [runStages] at ran
      split at ran
      · rename_i middle first
        rw [runStages_cons_ok (runStage_unlimited other first)]
        exact ih ran
      · cases ran

/-- A run that nothing stopped is the same without a budget. -/
theorem run_unlimited {cancelled : Bool} {sheet : Sheet} (other : Clock)
    (completed : (pipeline.run clock cancelled sheet).fault = none) :
    pipeline.unlimited.run other cancelled sheet = pipeline.run clock cancelled sheet := by
  unfold run at completed ⊢
  cases ran : pipeline.runStages clock sheet.name (.initial sheet cancelled) Stage.all with
  | mk final outcome =>
      cases outcome with
      | error fault =>
          rw [ran] at completed
          cases completed
      | ok answer => rw [runStages_unlimited other ran]

theorem runStage_allowed (allows : pipeline.options.Allows clock) (table : String)
    (state : RunState) (stage : Stage) :
    pipeline.runStage clock table state stage =
      pipeline.unlimited.runStage clock table state stage := by
  unfold runStage
  split
  · rfl
  · rw [workOf_unlimited]
    cases pipeline.workOf table state stage with
    | mk after outcome =>
        cases outcome with
        | error fault => rfl
        | ok answer =>
            cases budget : pipeline.options.stageBudget with
            | none => rfl
            | some limit =>
                have inTime := allows limit budget stage
                dsimp only
                rw [if_neg (Nat.not_lt.mpr inTime)]
                rfl

/-- A budget that is kept changes nothing. -/
theorem run_allowed (allows : pipeline.options.Allows clock) (cancelled : Bool) (sheet : Sheet) :
    pipeline.run clock cancelled sheet = pipeline.unlimited.run clock cancelled sheet := by
  have stages (state : RunState) (stages : List Stage) :
      pipeline.runStages clock sheet.name state stages =
        pipeline.unlimited.runStages clock sheet.name state stages := by
    induction stages generalizing state with
    | nil => rfl
    | cons stage stages ih =>
        rw [runStages, runStages, runStage_allowed allows]
        split
        · exact ih _
        · rfl
  unfold run
  rw [stages]

/-- A run that is cancelled from the start does not complete. -/
theorem fault_run_cancelled (sheet : Sheet) :
    (pipeline.run clock true sheet).fault = some (.cancelled .preProcess) := by
  have stopped : pipeline.runStage clock sheet.name (.initial sheet true) .preProcess =
      (.initial sheet true, .error (.cancelled .preProcess)) := rfl
  unfold run
  rw [Stage.all, runStages_cons_error stopped]

end Pipeline

namespace RunReport

theorem success_iff {report : RunReport} :
    report.success = true ↔ report.fault = none ∧ report.state.log.errors = [] := by
  obtain ⟨table, state, fault⟩ := report
  cases fault <;> simp [success, errors]

/-- What stopped a run is among its errors, so they alone tell whether it succeeded. -/
theorem success_iff_errors_eq_nil {report : RunReport} :
    report.success = true ↔ report.errors = [] := by
  obtain ⟨table, state, fault⟩ := report
  cases fault <;> simp [success, errors]

end RunReport

end SheetCompiler

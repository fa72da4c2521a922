import SheetCompiler.Proofs.Pipeline.FailFast
import SheetCompiler.Proofs.Pipeline.Standard

/-!
# Findings of a run

What validators find is written down at the end of their stage. A run that ends its
validation, well or badly, keeps every finding in its report and repeats it in its log; one
that breaks off between two validators keeps none.
-/

set_option autoImplicit false

namespace SheetCompiler

/-- Whether a processor of the given stage did not complete or was not called. -/
def RunFault.breaksOff (stage : Stage) : RunFault → Bool
  | .call other _ | .cancelled other => other == stage
  | .validation _ | .overBudget .. => false

theorem RunFault.stage_of_breaksOff {fault : RunFault} {stage : Stage}
    (broken : fault.breaksOff stage = true) : fault.stage = stage := by
  cases fault with
  | call other cause => exact beq_iff_eq.mp broken
  | cancelled other => exact beq_iff_eq.mp broken
  | validation failures => cases broken
  | overBudget other elapsed budget => cases broken

/-! ## Faults of stages -/

namespace RunState

variable {state next : RunState} {fault : RunFault}

theorem breaksOff_of_invoke {σ α : Type} {stage : Stage} {name : String}
    {call : Unit → Call σ α} {store : σ → RunState → RunState}
    (invoked : state.invoke stage name call store = (next, .error fault)) :
    fault.breaksOff stage = true := by
  cases cancelled : state.cancelled with
  | true =>
      rw [invoke_cancelled cancelled] at invoked
      cases invoked
      exact beq_self_eq_true stage
  | false =>
      rw [invoke_going cancelled] at invoked
      cases ended : (call ()).ending <;> simp only [ended] at invoked <;> cases invoked <;>
        exact beq_self_eq_true stage

theorem breaksOff_of_preProcess {processors : List PreProcessor}
    (ran : state.preProcess processors = (next, .error fault)) :
    fault.breaksOff .preProcess = true := by
  induction processors generalizing state with
  | nil => cases ran
  | cons processor processors ih =>
      unfold preProcess at ran
      dsimp only at ran
      split at ran
      · exact ih ran
      · rename_i invoked
        cases ran
        exact breaksOff_of_invoke invoked

theorem breaksOff_of_resolveSchema {nameSpace table : String}
    (ran : state.resolveSchema nameSpace table = (next, .error fault)) :
    fault.breaksOff .preProcess = true := by
  unfold resolveSchema at ran
  dsimp only at ran
  split at ran
  · rename_i invoked
    cases ran
    exact breaksOff_of_invoke invoked
  · cases ran

theorem breaksOff_of_generateCode {generators : List CodeGenerator}
    (ran : state.generateCode generators = (next, .error fault)) :
    fault.breaksOff .codeGeneration = true := by
  induction generators generalizing state with
  | nil => cases ran
  | cons generator generators ih =>
      unfold generateCode at ran
      split at ran
      · cases ran
        rfl
      · dsimp only at ran
        split at ran
        · exact ih ran
        · rename_i invoked
          cases ran
          exact breaksOff_of_invoke invoked

theorem breaksOff_of_processData {processors : List DataProcessor}
    (ran : state.processData processors = (next, .error fault)) :
    fault.breaksOff .dataProcess = true := by
  induction processors generalizing state with
  | nil => cases ran
  | cons processor processors ih =>
      unfold processData at ran
      split at ran
      · cases ran
        rfl
      · dsimp only at ran
        split at ran
        · exact ih ran
        · rename_i invoked
          cases ran
          exact breaksOff_of_invoke invoked

theorem breaksOff_of_callValidators {stops : Bool} {report : ValidationReport}
    {validators : List Validator}
    (ran : state.callValidators stops report validators = (next, .error fault)) :
    fault.breaksOff .validate = true := by
  induction validators generalizing state report with
  | nil => cases ran
  | cons validator validators ih =>
      unfold callValidators at ran
      split at ran
      · cases ran
        rfl
      · dsimp only at ran
        split at ran
        · split at ran
          · cases ran
          · exact ih ran
        · rename_i invoked
          cases ran
          exact breaksOff_of_invoke invoked

theorem breaksOff_of_postProcess {processors : List PostProcessor}
    (ran : state.postProcess processors = (next, .error fault)) :
    fault.breaksOff .postProcess = true := by
  induction processors generalizing state with
  | nil => cases ran
  | cons processor processors ih =>
      unfold postProcess at ran
      split at ran
      · cases ran
        rfl
      · dsimp only at ran
        split at ran
        · exact ih ran
        · rename_i invoked
          cases ran
          exact breaksOff_of_invoke invoked

theorem stage_of_validate {stops : Bool} {table : String} {validators : List Validator}
    (ran : state.validate stops table validators = (next, .error fault)) :
    fault.stage = .validate := by
  unfold validate at ran
  split at ran
  · rename_i called
    cases ran
    exact RunFault.stage_of_breaksOff (breaksOff_of_callValidators called)
  · dsimp only at ran
    split at ran
    · cases ran
    · cases ran
      rfl

/-! ## What a stage leaves alone -/

section Steady

variable {β : Type} {part : RunState → β}

/-- A part of the state in which calls leave no trace by themselves. -/
def IsSteady (part : RunState → β) : Prop :=
  ∀ state started cancelled, part { state with started, cancelled } = part state

theorem isSteady_log : IsSteady (·.log) := fun _ _ _ => rfl

theorem isSteady_validation : IsSteady (·.validation) := fun _ _ _ => rfl

theorem keeps_of_invoke {σ α : Type} {stage : Stage} {name : String} {call : Unit → Call σ α}
    {store : σ → RunState → RunState} {outcome : Except RunFault α} (steady : IsSteady part)
    (keeps : ∀ written state, part (store written state) = part state)
    (invoked : state.invoke stage name call store = (next, outcome)) :
    part next = part state := by
  cases going : state.cancelled with
  | true =>
      rw [invoke_cancelled going] at invoked
      cases invoked
      rfl
  | false =>
      have kept : part (state.afterCall stage name (call ()) store) = part state :=
        (steady _ _ _).trans ((keeps _ _).trans (steady state _ state.cancelled))
      cases outcome with
      | ok answer => rw [(of_invoke_ok going invoked).2, kept]
      | error fault => rw [(of_invoke_error going invoked).2, kept]

theorem callValidators_keeps (steady : IsSteady part) (stops : Bool) (report : ValidationReport)
    (state : RunState) (validators : List Validator) :
    part (state.callValidators stops report validators).1 = part state := by
  induction validators generalizing state report with
  | nil => rfl
  | cons validator validators ih =>
      unfold callValidators
      split
      · rfl
      · dsimp only
        split <;> rename_i invoked <;>
          have kept := keeps_of_invoke steady (fun _ _ => rfl) invoked
        · split
          · exact kept
          · exact (ih _ _).trans kept
        · exact kept

theorem postProcess_keeps (steady : IsSteady part)
    (keeps : ∀ state payload log, part { state with payload, log } = part state)
    (state : RunState) (processors : List PostProcessor) :
    part (state.postProcess processors).1 = part state := by
  induction processors generalizing state with
  | nil => rfl
  | cons processor processors ih =>
      unfold postProcess
      split
      · rfl
      · dsimp only
        split <;> rename_i invoked <;>
          have kept := keeps_of_invoke steady (fun written state => keeps state _ _) invoked
        · exact (ih _).trans kept
        · exact kept

end Steady

end RunState

/-- A processor that leaves the warnings of a run alone, or adds to them. -/
def Processor.KeepsWarnings (processor : PostProcessor) : Prop :=
  ∀ input state, state.log.warnings <+: (processor.call input state).state.log.warnings

theorem Standard.keepsWarnings_payload : Standard.payload.KeepsWarnings :=
  fun _ _ => List.prefix_rfl

theorem RunState.warnings_postProcess {processors : List PostProcessor}
    (keep : ∀ processor ∈ processors, processor.KeepsWarnings) (state : RunState) :
    state.log.warnings <+: (state.postProcess processors).1.log.warnings := by
  induction processors generalizing state with
  | nil => exact List.prefix_rfl
  | cons processor processors ih =>
      have later := ih fun other listed => keep other (List.mem_cons_of_mem _ listed)
      unfold postProcess
      split
      · exact List.prefix_rfl
      · cases going : state.cancelled with
        | true =>
            simp only [invoke_cancelled going]
            exact List.prefix_rfl
        | false =>
            have kept (input : PostInput) :=
              keep processor List.mem_cons_self input ⟨state.payload, state.log⟩
            dsimp only
            split <;> rename_i invoked
            · obtain ⟨-, rfl⟩ := of_invoke_ok going invoked
              refine List.IsPrefix.trans ?_ (later _)
              exact kept _
            · obtain ⟨-, rfl⟩ := of_invoke_error going invoked
              exact kept _

/-! ## Calls -/

section Calls

variable {stops : Bool} {tasks : List Task} {β : Type}

/-- What no processor of a sequence changes, each of its calls finds as it was. -/
theorem perform_keeps (part : RunState → β)
    (keeps : ∀ task ∈ tasks, ∀ state, part (task.work state).1 = part state) (state : RunState) :
    ∀ call ∈ (perform stops state tasks).1, part call.before = part state := by
  induction tasks generalizing state with
  | nil => exact List.forall_mem_nil _
  | cons task tasks ih =>
      have called : ∀ call ∈ ((task.answer? state).map (task.call state)).toList,
          part call.before = part state := by
        cases task.answer? state with
        | none => exact List.forall_mem_nil _
        | some answer => simp [Task.call]
      have kept := keeps task List.mem_cons_self state
      unfold perform
      cases worked : task.work state with
      | mk next outcome =>
          rw [worked] at kept
          cases outcome with
          | error fault => exact called
          | ok done =>
              dsimp only
              split
              · exact called
              · refine List.forall_mem_append.mpr ⟨called, fun call listed => ?_⟩
                rw [← kept]
                exact ih (fun other member => keeps other (List.mem_cons_of_mem _ member)) next call
                  listed

end Calls

namespace Pipeline

/-- How a run accounts for what its validators have found: all of it is in the report and in
the log, or the run broke off among them, and neither shows any of it. -/
inductive Accounts (pipeline : Pipeline) (table : String) (calls : List StartedCall)
    (final : RunState) : Bool → Prop where
  | recorded {found : List Finding} :
      calls.flatMap StartedCall.findings = found →
      final.validation = .ofFindings found →
      (found.filter fun finding => finding.severity.isFailure).map
        (fun finding => s!"{table}: {finding.display}") <:+: final.log.errors →
      ((∀ processor ∈ pipeline.post, processor.KeepsWarnings) →
        (found.filter fun finding => !finding.severity.isFailure).map
          (fun finding => s!"{table}: {finding.display}") <:+: final.log.warnings) →
      (∀ call ∈ calls, call.stage = .validate → call.answer.completes = true) →
      Accounts pipeline table calls final false
  | lost :
      final.validation = .empty →
      (∀ call ∈ calls, call.stage = .validate → call.before.log = final.log) →
      Accounts pipeline table calls final true

variable {pipeline : Pipeline} {clock : Clock} {table : String} {state next final : RunState}
  {stage : Stage} {stages : List Stage} {fault : RunFault} {calls : List StartedCall}

/-- Whether a run has broken off among its validators. -/
def breaksOff : Except RunFault Unit → Bool
  | .ok () => false
  | .error fault => fault.breaksOff .validate

/-! ## Stages in which nothing is found -/

theorem stage_of_workOf (worked : pipeline.workOf table state stage = (next, .error fault)) :
    fault.stage = stage := by
  cases stage with
  | preProcess =>
      unfold workOf at worked
      dsimp only at worked
      split at worked
      · exact RunFault.stage_of_breaksOff (RunState.breaksOff_of_resolveSchema worked)
      · rename_i ran
        cases worked
        exact RunFault.stage_of_breaksOff (RunState.breaksOff_of_preProcess ran)
  | codeGeneration => exact RunFault.stage_of_breaksOff (RunState.breaksOff_of_generateCode worked)
  | dataProcess => exact RunFault.stage_of_breaksOff (RunState.breaksOff_of_processData worked)
  | validate => exact RunState.stage_of_validate worked
  | postProcess => exact RunFault.stage_of_breaksOff (RunState.breaksOff_of_postProcess worked)

theorem stage_of_runStage
    (ran : pipeline.runStage clock table state stage = (next, .error fault)) :
    fault.stage = stage := by
  unfold runStage at ran
  split at ran
  · cases ran
    rfl
  · cases worked : pipeline.workOf table state stage with
    | mk after outcome =>
        rw [worked] at ran
        dsimp only at ran
        split at ran
        · cases ran
          exact stage_of_workOf worked
        · cases ran
        · split at ran <;> cases ran
          rfl

theorem stage_mem_of_runStages
    (ran : pipeline.runStages clock table state stages = (final, .error fault)) :
    fault.stage ∈ stages := by
  induction stages generalizing state with
  | nil => cases ran
  | cons stage stages ih =>
      unfold runStages at ran
      split at ran
      · exact List.mem_cons_of_mem _ (ih ran)
      · rename_i stopped
        cases ran
        rw [stage_of_runStage stopped]
        exact List.mem_cons_self

theorem breaksOff_of_apart (pipeline : Pipeline) (clock : Clock) (table : String)
    (state : RunState) (apart : Stage.validate ∉ stages) :
    breaksOff (pipeline.runStages clock table state stages).2 = false := by
  cases ran : pipeline.runStages clock table state stages with
  | mk final outcome =>
      cases outcome with
      | ok done => rfl
      | error fault =>
          cases broken : breaksOff (.error fault) with
          | false => rfl
          | true =>
              have listed := stage_mem_of_runStages ran
              rw [RunFault.stage_of_breaksOff broken] at listed
              exact absurd listed apart

theorem findings_callsOf (apart : stage ≠ .validate) :
    (pipeline.callsOf table state stage).flatMap StartedCall.findings = [] := by
  have performs := performs_perform pipeline.options.stopsAtFailure state
    (@lawful_tasks pipeline table stage)
  refine List.flatMap_eq_nil_iff.mpr fun call listed => ?_
  have silent := performs.report_eq_none
    (fun other listed => stage_of_mem_tasks other listed ▸ apart) listed
  rw [StartedCall.findings, silent]
  rfl

theorem findings_callsFrom (apart : Stage.validate ∉ stages) :
    (pipeline.callsFrom clock table state stages).flatMap StartedCall.findings = [] := by
  induction stages generalizing state with
  | nil => rfl
  | cons stage stages ih =>
      obtain ⟨here, there⟩ := not_or.mp (mt List.mem_cons.mpr apart)
      unfold callsFrom
      split
      · rfl
      · rw [List.flatMap_append, findings_callsOf (Ne.symm here), List.nil_append]
        split
        · exact ih there
        · rfl

theorem silent_of_apart (pipeline : Pipeline) (clock : Clock) (table : String)
    (state : RunState) (distinct : stages.Nodup) (apart : Stage.validate ∉ stages) :
    (∀ call ∈ pipeline.callsFrom clock table state stages, call.stage ≠ .validate) ∧
      (state.validation = .empty →
        (pipeline.runStages clock table state stages).1.validation = .empty) := by
  obtain ⟨reached, run⟩ := runCalls pipeline clock table state distinct
  have unreached : Stage.validate ∉ reached := fun listed => apart (run.begun.mem listed)
  exact ⟨fun call listed validates => unreached (validates ▸ run.placed call listed),
    run.untouched .validate unreached nofun⟩

/-! ## Validation -/

theorem log_before_validators (pipeline : Pipeline) (table : String) (state : RunState) :
    ∀ call ∈ pipeline.callsOf table state .validate, call.before.log = state.log := by
  refine perform_keeps (·.log) (fun task listed before => ?_) state
  obtain ⟨validator, -, rfl⟩ := List.mem_map.mp listed
  exact RunState.callValidators_keeps RunState.isSteady_log false .empty before [validator]

theorem accounts_validate (empty : state.validation = .empty) :
    Accounts pipeline table (pipeline.callsOf table state .validate)
      (pipeline.workOf table state .validate).1
      (breaksOff (pipeline.workOf table state .validate).2) := by
  have performs := performs_perform pipeline.options.stopsAtFailure state
    (@lawful_tasks pipeline table .validate)
  have same := log_before_validators pipeline table state
  have log := RunState.callValidators_keeps RunState.isSteady_log
    pipeline.options.stopsAtFailure .empty state pipeline.validators
  have validation := RunState.callValidators_keeps RunState.isSteady_validation
    pipeline.options.stopsAtFailure .empty state pipeline.validators
  unfold workOf RunState.validate
  dsimp only
  cases called : state.callValidators pipeline.options.stopsAtFailure .empty
      pipeline.validators with
  | mk next ended =>
      rw [called] at log validation
      cases ended with
      | error fault =>
          have broken : breaksOff (.error fault) = true :=
            RunState.breaksOff_of_callValidators called
          rw [broken]
          exact .lost (validation.trans empty) fun call listed _ =>
            (same call listed).trans log.symm
      | ok report =>
          obtain ⟨ended, rfl⟩ := of_callValidators_ok called
          change (perform pipeline.options.stopsAtFailure state
            (pipeline.tasks table .validate)).2 = (next, .ok ()) at ended
          rw [ended] at performs
          have listed : pipeline.callsOf table state .validate =
            (perform pipeline.options.stopsAtFailure state
              (pipeline.validators.map Task.ofValidator)).1 := rfl
          rw [← listed]
          generalize found : (pipeline.callsOf table state .validate).flatMap
            StartedCall.findings = findings
          have kept : Accounts pipeline table (pipeline.callsOf table state .validate)
              { next with
                log := findings.foldl (fun log finding => RunState.logFinding log table finding)
                  next.log
                validation := .ofFindings findings } false := by
            refine .recorded found rfl ?_ (fun _ => ?_) fun call listed _ =>
              performs.completes call listed
            · rw [RunState.errors_foldl_logFinding]
              exact (List.suffix_append _ _).isInfix
            · rw [RunState.warnings_foldl_logFinding]
              exact (List.suffix_append _ _).isInfix
          dsimp only
          rw [ValidationReport.findings_ofFindings]
          split <;> exact kept

/-! ## Runs -/

theorem runStages_append (state : RunState) (former later : List Stage) :
    pipeline.runStages clock table state (former ++ later) =
      match pipeline.runStages clock table state former with
      | (next, .ok ()) => pipeline.runStages clock table next later
      | (next, .error fault) => (next, .error fault) := by
  induction former generalizing state with
  | nil => rfl
  | cons stage former ih =>
      rw [List.cons_append, runStages, runStages]
      split
      · exact ih _
      · rfl

theorem callsFrom_append (state : RunState) (former later : List Stage) :
    pipeline.callsFrom clock table state (former ++ later) =
      pipeline.callsFrom clock table state former ++
        match pipeline.runStages clock table state former with
        | (next, .ok ()) => pipeline.callsFrom clock table next later
        | (_, .error _) => [] := by
  induction former generalizing state with
  | nil => rfl
  | cons stage former ih =>
      rw [List.cons_append, callsFrom, callsFrom, runStages]
      cases cancelled : state.cancelled with
      | true =>
          have stopped : pipeline.runStage clock table state stage =
              (state, .error (.cancelled stage)) := if_pos cancelled
          rw [stopped]
          rfl
      | false =>
          rw [if_neg Bool.false_ne_true, if_neg Bool.false_ne_true]
          cases ran : pipeline.runStage clock table state stage with
          | mk next outcome =>
              cases outcome with
              | error fault => simp
              | ok done => simp [ih]

theorem breaksOff_runStage (clock : Clock) (table : String) (stage : Stage)
    (going : state.cancelled = false) :
    breaksOff (pipeline.runStage clock table state stage).2 =
      breaksOff (pipeline.workOf table state stage).2 := by
  unfold runStage
  rw [going, if_neg Bool.false_ne_true]
  cases pipeline.workOf table state stage with
  | mk next outcome =>
      cases outcome with
      | error fault => rfl
      | ok done =>
          dsimp only
          split
          · rename_i failed
            cases failed
          · rfl
          · split <;> rfl

theorem Accounts.timed {broken : Bool} (accounts : Accounts pipeline table calls final broken)
    (timed : List Stage) : Accounts pipeline table calls { final with timed } broken := by
  cases accounts with
  | recorded found report errors warnings complete =>
      exact .recorded found report errors warnings complete
  | lost empty same => exact .lost empty same

theorem Accounts.of_silent {earlier : List StartedCall} {broken : Bool}
    (silent : earlier.flatMap StartedCall.findings = [])
    (apart : ∀ call ∈ earlier, call.stage ≠ .validate)
    (accounts : Accounts pipeline table calls final broken) :
    Accounts pipeline table (earlier ++ calls) final broken := by
  cases accounts with
  | recorded found report errors warnings complete =>
      refine .recorded ?_ report errors warnings fun call listed validates => ?_
      · rw [List.flatMap_append, silent, List.nil_append, found]
      · rcases List.mem_append.mp listed with before | member
        · exact absurd validates (apart call before)
        · exact complete call member validates
  | lost empty same =>
      refine .lost empty fun call listed validates => ?_
      rcases List.mem_append.mp listed with before | member
      · exact absurd validates (apart call before)
      · exact same call member validates

theorem postProcess_leaves (pipeline : Pipeline) (clock : Clock) (table : String)
    (state : RunState) :
    let final := (pipeline.runStages clock table state [.postProcess]).1
    final.validation = state.validation ∧
      ((∀ processor ∈ pipeline.post, processor.KeepsWarnings) →
        state.log.warnings <+: final.log.warnings) := by
  unfold runStages
  cases cancelled : state.cancelled with
  | true =>
      have stopped : pipeline.runStage clock table state .postProcess =
          (state, .error (.cancelled .postProcess)) := if_pos cancelled
      rw [stopped]
      exact ⟨rfl, fun _ => List.prefix_rfl⟩
  | false =>
      obtain ⟨outcome, ran, -⟩ := @runStage_going pipeline state clock table .postProcess cancelled
      have validation := RunState.postProcess_keeps RunState.isSteady_validation
        (fun _ _ _ => rfl) state pipeline.post
      have warnings (keep : ∀ processor ∈ pipeline.post, processor.KeepsWarnings) :=
        RunState.warnings_postProcess keep state
      rw [ran]
      cases outcome <;> exact ⟨validation, warnings⟩

/-- Processors of results are called when there is no failure, and leave the report alone. -/
theorem Accounts.postProcess (accounts : Accounts pipeline table calls next false)
    (clean : ∀ call ∈ calls, call.findsFailure = false) (clock : Clock) :
    Accounts pipeline table (calls ++ pipeline.callsFrom clock table next [.postProcess])
      (pipeline.runStages clock table next [.postProcess]).1 false := by
  obtain ⟨validation, kept⟩ := postProcess_leaves pipeline clock table next
  obtain ⟨apart, -⟩ := silent_of_apart pipeline clock table next
    (List.nodup_singleton Stage.postProcess) (by decide)
  cases accounts with
  | @recorded found listed report errors warnings complete =>
      have passing : (found.filter fun finding => finding.severity.isFailure) = [] := by
        refine List.filter_eq_nil_iff.mpr fun finding member failing => ?_
        obtain ⟨call, made, reported⟩ := List.mem_flatMap.mp (listed ▸ member)
        have passes := clean call made
        rw [findsFailure_eq, List.any_eq_false] at passes
        exact passes finding reported failing
      refine .recorded ?_ (validation.trans report) ?_ ?_ ?_
      · rw [List.flatMap_append, listed, findings_callsFrom (by decide), List.append_nil]
      · rw [passing]
        exact List.nil_infix
      · exact fun keep => (warnings keep).trans (kept keep).isInfix
      · intro call member validates
        rcases List.mem_append.mp member with before | after
        · exact complete call before validates
        · exact absurd validates (apart call after)

theorem accounts_validate_postProcess (clock : Clock) (empty : state.validation = .empty) :
    Accounts pipeline table
      (pipeline.callsFrom clock table state [.validate, .postProcess])
      (pipeline.runStages clock table state [.validate, .postProcess]).1
      (breaksOff (pipeline.runStages clock table state [.validate, .postProcess]).2) := by
  cases cancelled : state.cancelled with
  | true =>
      have stopped : pipeline.runStage clock table state .validate =
          (state, .error (.cancelled .validate)) := if_pos cancelled
      rw [callsFrom, if_pos cancelled, runStages_cons_error stopped]
      exact .lost empty (List.forall_mem_nil _)
  | false =>
      have accounts := @accounts_validate pipeline table state empty
      have same := @breaksOff_runStage pipeline state clock table .validate cancelled
      have own := pipeline.stageCalls table state .validate
      obtain ⟨outcome, ran, finished⟩ := runStage_going clock table .validate cancelled
      rw [← same, ran] at accounts
      rw [callsFrom, if_neg (Bool.eq_false_iff.mp cancelled), ran]
      cases outcome with
      | error fault =>
          rw [runStages_cons_error ran, List.append_nil]
          exact accounts.timed _
      | ok done =>
          rw [runStages_cons_ok ran, breaksOff_of_apart pipeline clock table _ (by decide)]
          exact (accounts.timed _).postProcess (own.completes (finished rfl)).2.1 clock

theorem accounts_run (clock : Clock) (empty : state.validation = .empty) :
    Accounts pipeline table (pipeline.callsFrom clock table state Stage.all)
      (pipeline.runStages clock table state Stage.all).1
      (breaksOff (pipeline.runStages clock table state Stage.all).2) := by
  have split : Stage.all =
      [.preProcess, .codeGeneration, .dataProcess] ++ [.validate, .postProcess] := rfl
  have apart : Stage.validate ∉ [Stage.preProcess, .codeGeneration, .dataProcess] := by decide
  have silent := @findings_callsFrom pipeline clock table state _ apart
  obtain ⟨before, kept⟩ := silent_of_apart pipeline clock table state (by decide) apart
  have whole := breaksOff_of_apart pipeline clock table state apart
  rw [split, runStages_append, callsFrom_append]
  cases ran : pipeline.runStages clock table state
      [.preProcess, .codeGeneration, .dataProcess] with
  | mk next outcome =>
      rw [ran] at kept whole
      cases outcome with
      | error fault =>
          rw [show breaksOff (.error fault) = false from whole]
          refine Accounts.of_silent silent before ?_
          exact .recorded rfl (kept empty) List.nil_infix (fun _ => List.nil_infix)
            (List.forall_mem_nil _)
      | ok done =>
          exact Accounts.of_silent silent before (accounts_validate_postProcess clock (kept empty))

/-- A run that does not break off among its validators reports all that they found, in the
order in which they were called, and repeats it in its log: failures as errors, the rest as
warnings. A run that breaks off there reports nothing of it and has written nothing since the
first of them was called. -/
theorem findings_run (pipeline : Pipeline) (clock : Clock) (cancelled : Bool) (sheet : Sheet) :
    let calls := pipeline.calls clock cancelled sheet
    let report := pipeline.run clock cancelled sheet
    let found := calls.flatMap StartedCall.findings
    let line (finding : Finding) := s!"{sheet.name}: {finding.display}"
    let broken := report.fault.any (RunFault.breaksOff .validate)
    (broken = false →
      report.state.validation = .ofFindings found ∧
        report.state.validation.findings = found ∧
        (found.filter fun finding => finding.severity.isFailure).map line <:+: report.errors ∧
        ((∀ processor ∈ pipeline.post, processor.KeepsWarnings) →
          (found.filter fun finding => !finding.severity.isFailure).map line <:+:
            report.state.log.warnings)) ∧
      (broken = true →
        report.state.validation = .empty ∧
          ∀ call ∈ calls, call.stage = .validate → call.before.log = report.state.log) ∧
      ((∃ call ∈ calls, call.stage = .validate ∧ call.answer.completes = false) →
        broken = true) := by
  intro calls report found line broken
  have accounts := @accounts_run pipeline sheet.name (.initial sheet cancelled) clock rfl
  have same : report.state =
      (pipeline.runStages clock sheet.name (.initial sheet cancelled) Stage.all).1 ∧
      broken = breaksOff
        (pipeline.runStages clock sheet.name (.initial sheet cancelled) Stage.all).2 := by
    subst broken report
    unfold run
    cases pipeline.runStages clock sheet.name (.initial sheet cancelled) Stage.all with
    | mk final outcome => cases outcome <;> exact ⟨rfl, rfl⟩
  rw [← same.1, ← same.2] at accounts
  generalize broken = broke at accounts
  cases accounts with
  | @recorded listed reported validation errors warnings complete =>
      obtain rfl : found = listed := reported
      refine ⟨fun _ => ⟨validation, ?_, ?_, warnings⟩, nofun, ?_⟩
      · rw [validation, ValidationReport.findings_ofFindings]
      · exact errors.trans (List.prefix_append _ _).isInfix
      · rintro ⟨call, made, validates, incomplete⟩
        rw [complete call made validates] at incomplete
        cases incomplete
  | lost empty same => exact ⟨nofun, fun _ => ⟨empty, same⟩, fun _ => rfl⟩

/-- Two validators, and a failure and a warning between them. -/
theorem findings_run_both :
    let finding (severity : Severity) : Finding := ⟨some "Id", none, "Odd", "Check", severity⟩
    let validator (severity : Severity) : Validator :=
      ⟨"check", 0, fun _ _ => .complete () (.ofFindings [finding severity])⟩
    let pipeline : Pipeline :=
      { ofOptions .standard with
        validators := [validator .warning, validator .critical]
        post := [Standard.payload] }
    let sheet : Sheet := ⟨"Item", [["Id"], ["int"], [""], [""]]⟩
    let report := pipeline.run .least false sheet
    report.fault.any (RunFault.breaksOff .validate) = false ∧
      report.state.validation.findings = [finding .warning, finding .critical] ∧
      [s!"Item: {(finding .critical).display}"] <:+: report.errors ∧
      [s!"Item: {(finding .warning).display}"] <:+: report.state.log.warnings := by
  intro finding validator pipeline sheet report
  have whole : report.fault.any (RunFault.breaksOff .validate) = false := by decide +kernel
  have found : (pipeline.calls .least false sheet).flatMap StartedCall.findings =
      [finding .warning, finding .critical] := by decide +kernel
  obtain ⟨recorded, -, -⟩ := findings_run pipeline .least false sheet
  obtain ⟨-, listed, errors, warnings⟩ := recorded whole
  rw [found] at listed errors warnings
  have keep : ∀ processor ∈ pipeline.post, processor.KeepsWarnings :=
    List.forall_mem_singleton.mpr Standard.keepsWarnings_payload
  exact ⟨whole, listed, errors, warnings keep⟩

/-- A failure is found, and the next validator fails, crashes, or is not called because the
first one has cancelled the run. -/
theorem findings_run_brokenOff :
    let finding : Finding := ⟨some "Id", none, "Odd", "Check", .error⟩
    let finds (cancels : Bool) : Validator :=
      ⟨"finds", 0, fun _ _ => ⟨(), cancels, .done (.ofFindings [finding])⟩⟩
    let ends (ending : Ending ValidationReport) : Validator :=
      ⟨"ends", 1, fun _ _ => ⟨(), false, ending⟩⟩
    let sheet : Sheet := ⟨"Item", [["Id"], ["int"], [""], [""]]⟩
    ∀ validators ∈
      [[finds false, ends (.failed (.failed "ends" "gone"))],
        [finds false, ends (.crashed (.message "gone"))],
        [finds true, ends (.done .empty)]],
      let pipeline : Pipeline := { ofOptions .standard with validators }
      let report := pipeline.run .least false sheet
      (pipeline.calls .least false sheet).flatMap StartedCall.findings = [finding] ∧
        report.state.validation.findings = [] ∧
        s!"Item: {finding.display}" ∉ report.errors ∧
        s!"Item: {finding.display}" ∉ report.state.log.warnings := by
  decide +kernel

end Pipeline

end SheetCompiler

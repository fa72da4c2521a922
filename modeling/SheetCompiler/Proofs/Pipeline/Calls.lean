import SheetCompiler.Proofs.Pipeline.Task
import SheetCompiler.Proofs.Validation.Report

/-!
# Calls of processors

The calls that the stages of a run make, one after the other, with the state that each
finds and the answer it gives. The stages of `Pipeline` are shown to be such sequences of
calls.
-/

set_option autoImplicit false

namespace SheetCompiler

/-! ## Sequences of calls -/

/-- Calls processors one after the other, and lists the calls. Where wanted, those after
the first one that reports a failure are left out. -/
def perform (stops : Bool) (state : RunState) :
    List Task → List StartedCall × RunState × Except RunFault Unit
  | [] => ([], state, .ok ())
  | task :: tasks =>
      let called := ((task.answer? state).map (task.call state)).toList
      match task.work state with
      | (next, .error fault) => (called, next, .error fault)
      | (next, .ok ()) =>
          if stops && called.any StartedCall.rejects then (called, next, .ok ())
          else
            let rest := perform stops next tasks
            (called ++ rest.1, rest.2)

/-- How a sequence of calls goes on: a processor is not called, its call does not complete,
it reports a failure where that ends the sequence, or the next one is called. -/
inductive Performs (stops : Bool) :
    RunState → List Task → List StartedCall → RunState → Except RunFault Unit → Prop where
  | finished {state : RunState} : Performs stops state [] [] state (.ok ())
  | refused {state : RunState} {task : Task} {tasks : List Task} {fault : RunFault} :
      Performs stops state (task :: tasks) [] state (.error fault)
  | stopped {state next : RunState} {task : Task} {tasks : List Task} {answer : Answer}
      {fault : RunFault} :
      task.Lawful → task.answer? state = some answer →
      task.Does answer state (next, .error fault) →
      Performs stops state (task :: tasks) [task.call state answer] next (.error fault)
  | rejected {state next : RunState} {task : Task} {tasks : List Task} {answer : Answer} :
      task.Lawful → task.answer? state = some answer → task.Does answer state (next, .ok ()) →
      stops = true → (task.call state answer).rejects = true →
      Performs stops state (task :: tasks) [task.call state answer] next (.ok ())
  | called {state next final : RunState} {task : Task} {tasks : List Task} {answer : Answer}
      {calls : List StartedCall} {outcome : Except RunFault Unit} :
      task.Lawful → task.answer? state = some answer → task.Does answer state (next, .ok ()) →
      (stops && (task.call state answer).rejects) = false →
      Performs stops next tasks calls final outcome →
      Performs stops state (task :: tasks) (task.call state answer :: calls) final outcome

theorem performs_perform (stops : Bool) (state : RunState) {tasks : List Task}
    (lawful : ∀ task ∈ tasks, task.Lawful) :
    Performs stops state tasks (perform stops state tasks).1 (perform stops state tasks).2.1
      (perform stops state tasks).2.2 := by
  induction tasks generalizing state with
  | nil => exact .finished
  | cons task tasks ih =>
      have law := lawful task List.mem_cons_self
      unfold perform
      cases called : task.answer? state with
      | none =>
          obtain ⟨fault, worked⟩ := law.refuses called
          rw [worked]
          exact .refused
      | some answer =>
          have does := law.does called
          cases worked : task.work state with
          | mk next outcome =>
              rw [worked] at does
              cases outcome with
              | error fault => exact .stopped law called does
              | ok done =>
                  dsimp only [Option.map_some, Option.toList_some]
                  by_cases cut : (stops && [task.call state answer].any StartedCall.rejects) = true
                  · rw [if_pos cut]
                    rw [List.any_cons, List.any_nil, Bool.or_false, Bool.and_eq_true] at cut
                    exact .rejected law called does cut.1 cut.2
                  · rw [if_neg cut]
                    rw [List.any_cons, List.any_nil, Bool.or_false, Bool.not_eq_true] at cut
                    exact .called law called does cut
                      (ih next fun later member => lawful later (List.mem_cons_of_mem _ member))

namespace Performs

variable {stops : Bool} {state final : RunState} {tasks : List Task} {calls : List StartedCall}
  {outcome : Except RunFault Unit}

theorem started (performs : Performs stops state tasks calls final outcome) :
    final.started = state.started ++ calls.map StartedCall.label := by
  induction performs with
  | finished | refused => exact (List.append_nil _).symm
  | stopped _ _ does | rejected _ _ does => exact does.started
  | called _ _ does _ _ ih => rw [ih, does.started, List.append_assoc]; rfl

theorem timed (performs : Performs stops state tasks calls final outcome) :
    final.timed = state.timed := by
  induction performs with
  | finished | refused => rfl
  | stopped _ _ does | rejected _ _ does => exact does.timed
  | called _ _ does _ _ ih => exact ih.trans does.timed

theorem untouched {stage other : Stage} (performs : Performs stops state tasks calls final outcome)
    (placed : ∀ task ∈ tasks, task.stage = stage) (apart : other ≠ stage)
    (resolved : other ≠ .preProcess) (empty : state.Untouched other) : final.Untouched other := by
  induction performs with
  | finished | refused => exact empty
  | stopped _ _ does | rejected _ _ does =>
      have here := placed _ List.mem_cons_self
      exact does.untouched other (here ▸ apart) resolved empty
  | called _ _ does _ _ ih =>
      have here := placed _ List.mem_cons_self
      exact ih (fun task member => placed task (List.mem_cons_of_mem _ member))
        (does.untouched other (here ▸ apart) resolved empty)

/-- Every listed call is the call of one of the processors, in the state that it found. -/
theorem exists_task (performs : Performs stops state tasks calls final outcome)
    {call : StartedCall} (listed : call ∈ calls) :
    ∃ task ∈ tasks, task.Lawful ∧ call.label = task.label ∧
      task.answer? call.before = some call.answer := by
  induction performs with
  | finished | refused => cases listed
  | stopped law answered | rejected law answered =>
      obtain rfl := List.mem_singleton.mp listed
      exact ⟨_, List.mem_cons_self, law, rfl, answered⟩
  | called law answered _ _ _ ih =>
      rcases List.mem_cons.mp listed with rfl | later
      · exact ⟨_, List.mem_cons_self, law, rfl, answered⟩
      · obtain ⟨task, member, found⟩ := ih later
        exact ⟨task, List.mem_cons_of_mem _ member, found⟩

/-- Only validators report. -/
theorem report_eq_none (performs : Performs stops state tasks calls final outcome)
    (silent : ∀ task ∈ tasks, task.stage ≠ .validate) {call : StartedCall}
    (listed : call ∈ calls) : call.answer.report = none := by
  obtain ⟨task, member, law, -, answered⟩ := performs.exists_task listed
  exact (law.does answered).reports (silent task member)

theorem completes (performs : Performs stops state tasks calls final (.ok ())) :
    ∀ call ∈ calls, call.answer.completes = true := by
  generalize ended : (Except.ok () : Except RunFault Unit) = outcome at performs
  induction performs with
  | finished => exact List.forall_mem_nil _
  | refused | stopped => cases ended
  | rejected _ _ does =>
      intro call listed
      obtain rfl := List.mem_singleton.mp listed
      exact does.answered.symm
  | called _ _ does _ _ ih =>
      intro call listed
      rcases List.mem_cons.mp listed with rfl | later
      · exact does.answered.symm
      · exact ih ended call later

/-- No call starts in a run that is cancelled, or after one that did not complete. -/
theorem failsFast (performs : Performs stops state tasks calls final outcome)
    {earlier later : List StartedCall} {call : StartedCall}
    (split : calls = earlier ++ call :: later) :
    call.before.cancelled = false ∧
      call.before.started = state.started ++ earlier.map StartedCall.label ∧
      ∀ other ∈ earlier, other.answer.completes = true := by
  induction performs generalizing earlier with
  | finished | refused =>
      have lengths := congrArg List.length split
      simp at lengths
  | stopped law answered | rejected law answered =>
      cases earlier with
      | cons first earlier =>
          have lengths := congrArg List.length split
          simp at lengths
      | nil =>
          obtain ⟨rfl, -⟩ := List.cons.inj split
          exact ⟨law.going answered, (List.append_nil _).symm, List.forall_mem_nil _⟩
  | called law answered does _ _ ih =>
      cases earlier with
      | nil =>
          obtain ⟨rfl, -⟩ := List.cons.inj split
          exact ⟨law.going answered, (List.append_nil _).symm, List.forall_mem_nil _⟩
      | cons first earlier =>
          obtain ⟨rfl, rest⟩ := List.cons.inj split
          obtain ⟨going, started, complete⟩ := ih rest
          refine ⟨going, ?_, fun other listed => ?_⟩
          · rw [started, does.started, List.append_assoc]
            rfl
          · rcases List.mem_cons.mp listed with rfl | before
            · exact does.answered.symm
            · exact complete other before

end Performs

/-- What is left of a stage when the processors after the first one that reports a failure
are left out. -/
def leftIn (stops : Bool) (calls : List StartedCall) (labels : List (Stage × String)) :
    List (Stage × String) :=
  match calls.findIdx? StartedCall.rejects with
  | some place => if stops then labels.take (place + 1) else labels
  | none => labels

namespace Performs

variable {stops : Bool} {state final : RunState} {tasks : List Task} {calls : List StartedCall}
  {outcome : Except RunFault Unit}

theorem leftIn_cons {call : StartedCall} {label : Stage × String} {labels : List (Stage × String)}
    (going : (stops && call.rejects) = false) :
    leftIn stops (call :: calls) (label :: labels) = label :: leftIn stops calls labels := by
  unfold leftIn
  rw [List.findIdx?_cons]
  cases rejects : call.rejects with
  | true =>
      rw [rejects, Bool.and_true] at going
      subst going
      simp
      cases calls.findIdx? StartedCall.rejects <;> rfl
  | false =>
      cases calls.findIdx? StartedCall.rejects with
      | none => rfl
      | some place => cases stops <;> rfl

theorem prefix_leftIn_singleton (call : StartedCall) (label : Stage × String)
    (labels : List (Stage × String)) : [label] <+: leftIn stops [call] (label :: labels) := by
  unfold leftIn
  rw [List.findIdx?_cons]
  cases call.rejects with
  | true => cases stops <;> exact List.cons_prefix_cons.mpr ⟨rfl, List.nil_prefix⟩
  | false => exact List.cons_prefix_cons.mpr ⟨rfl, List.nil_prefix⟩

theorem prefix_leftIn (performs : Performs stops state tasks calls final outcome) :
    calls.map StartedCall.label <+: leftIn stops calls (tasks.map Task.label) ∧
      (outcome = .ok () →
        calls.map StartedCall.label = leftIn stops calls (tasks.map Task.label)) := by
  induction performs with
  | finished => exact ⟨List.prefix_rfl, fun _ => rfl⟩
  | refused => exact ⟨List.nil_prefix, nofun⟩
  | stopped => exact ⟨prefix_leftIn_singleton _ _ _, nofun⟩
  | rejected _ _ _ wanted rejects =>
      refine ⟨prefix_leftIn_singleton _ _ _, fun _ => ?_⟩
      unfold leftIn
      rw [List.findIdx?_cons, if_pos rejects]
      exact (if_pos wanted).symm
  | called _ _ _ going _ ih =>
      rw [List.map_cons, List.map_cons, leftIn_cons going]
      refine ⟨List.cons_prefix_cons.mpr ⟨rfl, ih.1⟩, fun done => ?_⟩
      rw [← ih.2 done]
      rfl

end Performs

/-! ## Stages as sequences of calls -/

section Stages

variable {stops : Bool}

/-- Only validators report, so nothing else ends a stage early. -/
theorem perform_cons {task : Task} (tasks : List Task) (lawful : task.Lawful)
    (silent : task.stage ≠ .validate) (state : RunState) :
    (perform stops state (task :: tasks)).2 =
      match task.work state with
      | (next, .ok ()) => (perform stops next tasks).2
      | (next, .error fault) => (next, .error fault) := by
  have quiet : ((task.answer? state).map (task.call state)).toList.any StartedCall.rejects =
      false := by
    cases answered : task.answer? state with
    | none => rfl
    | some answer =>
        have none := (lawful.does answered).reports silent
        simp [StartedCall.rejects, Task.call, none]
  rw [perform]
  cases task.work state with
  | mk next outcome =>
      cases outcome with
      | error fault => rfl
      | ok done =>
          dsimp only
          rw [quiet, Bool.and_false, if_neg Bool.false_ne_true]

theorem perform_append {tasks : List Task} (more : List Task)
    (lawful : ∀ task ∈ tasks, task.Lawful) (silent : ∀ task ∈ tasks, task.stage ≠ .validate)
    (state : RunState) :
    (perform stops state (tasks ++ more)).2 =
      match (perform stops state tasks).2 with
      | (next, .ok ()) => (perform stops next more).2
      | (next, .error fault) => (next, .error fault) := by
  induction tasks generalizing state with
  | nil => rfl
  | cons task tasks ih =>
      have law := lawful task List.mem_cons_self
      have quiet := silent task List.mem_cons_self
      rw [List.cons_append, perform_cons _ law quiet, perform_cons _ law quiet]
      cases task.work state with
      | mk next outcome =>
          cases outcome with
          | error fault => rfl
          | ok done =>
              exact ih (fun later member => lawful later (List.mem_cons_of_mem _ member))
                (fun later member => silent later (List.mem_cons_of_mem _ member)) next

/-- A stage that passes the state on from processor to processor is a sequence of calls. -/
theorem perform_map {π : Type} {run : RunState → List π → RunState × Except RunFault Unit}
    {task : π → Task} (lawful : ∀ processor, (task processor).Lawful)
    (silent : ∀ processor, (task processor).stage ≠ .validate)
    (work : ∀ processor state, (task processor).work state = run state [processor])
    (nil : ∀ state, run state [] = (state, .ok ()))
    (cons : ∀ state processor processors, run state (processor :: processors) =
      match run state [processor] with
      | (next, .ok ()) => run next processors
      | (next, .error fault) => (next, .error fault))
    (state : RunState) (processors : List π) :
    (perform stops state (processors.map task)).2 = run state processors := by
  induction processors generalizing state with
  | nil => exact (nil state).symm
  | cons processor processors ih =>
      rw [List.map_cons, perform_cons _ (lawful processor) (silent processor), work,
        cons state processor processors]
      cases run state [processor] with
      | mk next outcome =>
          cases outcome with
          | error fault => rfl
          | ok done => exact ih next

theorem preProcess_eq (state : RunState) (processors : List PreProcessor) :
    (perform stops state (processors.map Task.ofPre)).2 = state.preProcess processors := by
  refine perform_map Task.lawful_ofPre (fun _ => nofun) (fun _ _ => rfl) (fun _ => rfl) ?_ _ _
  intro state processor processors
  rw [RunState.preProcess, RunState.preProcess]
  split <;> rfl

theorem generateCode_eq (state : RunState) (generators : List CodeGenerator) :
    (perform stops state (generators.map Task.ofGenerator)).2 = state.generateCode generators := by
  refine perform_map Task.lawful_ofGenerator (fun _ => nofun) (fun _ _ => rfl) (fun _ => rfl) ?_ _ _
  intro state generator generators
  rw [RunState.generateCode, RunState.generateCode]
  cases state.schema with
  | none => rfl
  | some schema =>
      dsimp only
      split <;> rfl

theorem processData_eq (state : RunState) (processors : List DataProcessor) :
    (perform stops state (processors.map Task.ofData)).2 = state.processData processors := by
  refine perform_map Task.lawful_ofData (fun _ => nofun) (fun _ _ => rfl) (fun _ => rfl) ?_ _ _
  intro state processor processors
  rw [RunState.processData, RunState.processData]
  cases state.schema with
  | none => rfl
  | some schema =>
      dsimp only
      split <;> rfl

theorem postProcess_eq (state : RunState) (processors : List PostProcessor) :
    (perform stops state (processors.map Task.ofPost)).2 = state.postProcess processors := by
  refine perform_map Task.lawful_ofPost (fun _ => nofun) (fun _ _ => rfl) (fun _ => rfl) ?_ _ _
  intro state processor processors
  rw [RunState.postProcess, RunState.postProcess]
  cases state.schema with
  | none => rfl
  | some schema =>
      dsimp only
      split <;> rfl

/-- The findings that a call reported. -/
def StartedCall.findings (call : StartedCall) : List Finding :=
  (call.answer.report.map ValidationReport.findings).getD []

theorem callValidators_cons_refused {validator : Validator} {state : RunState}
    (idle : (Task.ofValidator validator).answer? state = none) (stops : Bool)
    (report : ValidationReport) (validators : List Validator) :
    ∃ fault, (Task.ofValidator validator).work state = (state, .error fault) ∧
      state.callValidators stops report (validator :: validators) = (state, .error fault) := by
  show ∃ fault, ((state.callValidators false .empty [validator]).1,
    (state.callValidators false .empty [validator]).2.map fun _ => ()) = _ ∧ _
  rw [RunState.callValidators, RunState.callValidators]
  cases resolved : state.schema with
  | none => exact ⟨_, rfl, rfl⟩
  | some schema =>
      rcases Task.unlessCancelled_eq_none idle with cancelled | none
      · refine ⟨.cancelled .validate, ?_⟩
        dsimp only
        rw [RunState.invoke_cancelled cancelled]
        exact ⟨rfl, rfl⟩
      · rw [resolved] at none
        cases none

theorem callValidators_cons_called {validator : Validator} {state : RunState} {answer : Answer}
    (called : (Task.ofValidator validator).answer? state = some answer) (stops : Bool)
    (report : ValidationReport) (validators : List Validator) :
    (∃ next fault, answer.report = none ∧
        (Task.ofValidator validator).work state = (next, .error fault) ∧
        state.callValidators stops report (validator :: validators) = (next, .error fault)) ∨
      ∃ next found, answer.report = some found ∧
        (Task.ofValidator validator).work state = (next, .ok ()) ∧
        state.callValidators stops report (validator :: validators) =
          if !found.isValid && stops then (next, .ok (report.merge found))
          else next.callValidators stops (report.merge found) validators := by
  obtain ⟨going, same⟩ := Task.unlessCancelled_eq_some called
  obtain ⟨schema, resolved, rfl⟩ := Option.map_eq_some_iff.mp same
  show (∃ next fault, _ ∧ ((state.callValidators false .empty [validator]).1,
    (state.callValidators false .empty [validator]).2.map fun _ => ()) = _ ∧ _) ∨
    ∃ next found, _ ∧ ((state.callValidators false .empty [validator]).1,
      (state.callValidators false .empty [validator]).2.map fun _ => ()) = _ ∧ _
  rw [RunState.callValidators, RunState.callValidators, resolved]
  dsimp only
  cases invoked : state.invoke .validate validator.name
      (fun _ => validator.call ⟨schema, state.sheet, state.cellErrors, state.relations⟩ ())
      (fun _ state => state) with
  | mk next outcome =>
      cases outcome with
      | error fault =>
          have ended := (RunState.of_invoke_error going invoked).1 some
          exact .inl ⟨next, fault, by rw [ended], rfl, rfl⟩
      | ok found =>
          have ended := (RunState.of_invoke_ok going invoked).1
          refine .inr ⟨next, found, by rw [ended]; rfl, ?_, rfl⟩
          dsimp only
          rw [Bool.and_false, if_neg Bool.false_ne_true]
          rfl

/-- Validators are called in the same way, and what they report is collected. -/
theorem callValidators_eq (stops : Bool) (report : ValidationReport) (state : RunState)
    (validators : List Validator) :
    (perform stops state (validators.map Task.ofValidator)).2.1 =
        (state.callValidators stops report validators).1 ∧
      (state.callValidators stops report validators).2 =
        (perform stops state (validators.map Task.ofValidator)).2.2.map fun _ =>
          report.pushAll ((perform stops state (validators.map Task.ofValidator)).1.flatMap
            StartedCall.findings) := by
  induction validators generalizing report state with
  | nil => exact ⟨rfl, rfl⟩
  | cons validator validators ih =>
      rw [List.map_cons, perform]
      cases called : (Task.ofValidator validator).answer? state with
      | none =>
          obtain ⟨fault, worked, same⟩ :=
            callValidators_cons_refused called stops report validators
          rw [worked, same]
          exact ⟨rfl, rfl⟩
      | some answer =>
          rcases callValidators_cons_called called stops report validators with
            ⟨next, fault, -, worked, same⟩ | ⟨next, found, reported, worked, same⟩
          · rw [worked, same]
            exact ⟨rfl, rfl⟩
          · have listed :
                ((Task.ofValidator validator).call state answer).findings = found.findings := by
              simp [StartedCall.findings, Task.call, reported]
            have rejects :
                ((Task.ofValidator validator).call state answer).rejects = !found.isValid := by
              simp [StartedCall.rejects, Task.call, reported]
            rw [worked, same]
            simp only [Option.map_some, Option.toList_some, List.any_cons, List.any_nil,
              Bool.or_false, rejects, Bool.and_comm stops]
            by_cases cut : (!found.isValid && stops) = true
            · rw [if_pos cut, if_pos cut, List.flatMap_singleton, listed]
              exact ⟨rfl, rfl⟩
            · rw [if_neg cut, if_neg cut]
              obtain ⟨left, collected⟩ := ih (report.merge found) next
              refine ⟨left, ?_⟩
              rw [collected, List.singleton_append, List.flatMap_cons, listed,
                ValidationReport.pushAll_append]
              rfl

/-- Validators that all complete leave a report on what they found. -/
theorem of_callValidators_ok {state next : RunState} {validators : List Validator}
    {report : ValidationReport}
    (called : state.callValidators stops .empty validators = (next, .ok report)) :
    (perform stops state (validators.map Task.ofValidator)).2 = (next, .ok ()) ∧
      report = .ofFindings
        ((perform stops state (validators.map Task.ofValidator)).1.flatMap
          StartedCall.findings) := by
  obtain ⟨left, collected⟩ := callValidators_eq stops .empty state validators
  rw [called] at left collected
  cases performed : perform stops state (validators.map Task.ofValidator) with
  | mk calls ended =>
      obtain ⟨final, outcome⟩ := ended
      rw [performed] at left collected
      cases outcome with
      | error fault => cases collected
      | ok done =>
          dsimp only at left
          subst left
          exact ⟨rfl, Except.ok.inj collected⟩

end Stages

end SheetCompiler

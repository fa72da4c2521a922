import Mathlib.Data.List.Nodup
import SheetCompiler.Proofs.Pipeline.Calls
import SheetCompiler.Proofs.Pipeline.Registration

/-!
# Failing fast

A run makes its calls in one order, and none after the first thing that goes wrong. Main
statement: the calls of every run are a beginning of the sequence that the stages and the
priorities of the processors fix, and a run that is cut short leaves alone what belongs to
the stages that it did not reach.
-/

set_option autoImplicit false

namespace SheetCompiler

namespace Pipeline

/-! ## The calls of a run -/

/-- The processors of a stage in the order in which they are called. -/
def tasks (pipeline : Pipeline) (table : String) : Stage → List Task
  | .preProcess =>
      pipeline.pre.map Task.ofPre ++ [Task.resolver pipeline.options.nameSpace table]
  | .codeGeneration => pipeline.generators.map Task.ofGenerator
  | .dataProcess => pipeline.data.map Task.ofData
  | .validate => pipeline.validators.map Task.ofValidator
  | .postProcess => pipeline.post.map Task.ofPost

def callsOf (pipeline : Pipeline) (table : String) (state : RunState) (stage : Stage) :
    List StartedCall :=
  (perform pipeline.options.stopsAtFailure state (pipeline.tasks table stage)).1

def callsFrom (pipeline : Pipeline) (clock : Clock) (table : String) (state : RunState) :
    List Stage → List StartedCall
  | [] => []
  | stage :: stages =>
      if state.cancelled then []
      else
        pipeline.callsOf table state stage ++
          match pipeline.runStage clock table state stage with
          | (next, .ok ()) => callsFrom pipeline clock table next stages
          | (_, .error _) => []

/-- The calls that a run starts, in their order. -/
def calls (pipeline : Pipeline) (clock : Clock) (cancelled : Bool) (sheet : Sheet) :
    List StartedCall :=
  pipeline.callsFrom clock sheet.name (.initial sheet cancelled) Stage.all

/-- The calls of a stage when each processor is called. The schema is resolved last in the
first stage. -/
def labels (pipeline : Pipeline) (stage : Stage) : List (Stage × String) :=
  let resolver := if stage = .preProcess then ["schema-resolver"] else []
  (pipeline.processorNames stage ++ resolver).map fun name => (stage, name)

/-- The calls of a stage, less the processors after the first one that reports a failure
where those are left out. -/
def planned (pipeline : Pipeline) (calls : List StartedCall) (stage : Stage) :
    List (Stage × String) :=
  leftIn pipeline.options.stopsAtFailure (calls.filter fun call => call.stage = stage)
    (pipeline.labels stage)

variable {pipeline : Pipeline} {table : String} {state : RunState} {stage : Stage}

theorem lawful_tasks : ∀ task ∈ pipeline.tasks table stage, task.Lawful := by
  intro task listed
  cases stage with
  | preProcess =>
      rcases List.mem_append.mp listed with registered | resolver
      · obtain ⟨processor, -, rfl⟩ := List.mem_map.mp registered
        exact Task.lawful_ofPre processor
      · obtain rfl := List.mem_singleton.mp resolver
        exact Task.lawful_resolver _ _
  | codeGeneration =>
      obtain ⟨generator, -, rfl⟩ := List.mem_map.mp listed
      exact Task.lawful_ofGenerator generator
  | dataProcess =>
      obtain ⟨processor, -, rfl⟩ := List.mem_map.mp listed
      exact Task.lawful_ofData processor
  | validate =>
      obtain ⟨validator, -, rfl⟩ := List.mem_map.mp listed
      exact Task.lawful_ofValidator validator
  | postProcess =>
      obtain ⟨processor, -, rfl⟩ := List.mem_map.mp listed
      exact Task.lawful_ofPost processor

theorem stage_of_mem_tasks : ∀ task ∈ pipeline.tasks table stage, task.stage = stage := by
  intro task listed
  cases stage with
  | preProcess =>
      rcases List.mem_append.mp listed with registered | resolver
      · obtain ⟨processor, -, rfl⟩ := List.mem_map.mp registered
        rfl
      · obtain rfl := List.mem_singleton.mp resolver
        rfl
  | codeGeneration | dataProcess | validate | postProcess =>
      obtain ⟨processor, -, rfl⟩ := List.mem_map.mp listed
      rfl

theorem map_label_tasks : (pipeline.tasks table stage).map Task.label = pipeline.labels stage := by
  cases stage with
  | preProcess =>
      simp [tasks, labels, processorNames, Task.label, Task.ofPre, Task.resolver]
  | codeGeneration | dataProcess | validate | postProcess =>
      simp [tasks, labels, processorNames, Task.label, Task.ofGenerator, Task.ofData,
        Task.ofValidator, Task.ofPost]

theorem perform_tasks (apart : stage ≠ .validate) (stops : Bool) :
    (perform stops state (pipeline.tasks table stage)).2 = pipeline.workOf table state stage := by
  cases stage with
  | preProcess =>
      have lawful : ∀ task ∈ pipeline.pre.map Task.ofPre, task.Lawful := by
        intro task listed
        obtain ⟨processor, -, rfl⟩ := List.mem_map.mp listed
        exact Task.lawful_ofPre processor
      have silent : ∀ task ∈ pipeline.pre.map Task.ofPre, task.stage ≠ .validate := by
        intro task listed
        obtain ⟨processor, -, rfl⟩ := List.mem_map.mp listed
        exact Stage.noConfusion
      rw [tasks, perform_append _ lawful silent, preProcess_eq, workOf]
      cases state.preProcess pipeline.pre with
      | mk next outcome =>
          cases outcome with
          | error fault => rfl
          | ok done =>
              dsimp only
              rw [perform_cons _ (Task.lawful_resolver _ _) Stage.noConfusion]
              cases resolved : next.resolveSchema pipeline.options.nameSpace table with
              | mk last outcome =>
                  cases outcome with
                  | error fault => simp only [Task.resolver, resolved]
                  | ok done => simp only [Task.resolver, resolved, perform]
  | codeGeneration => exact generateCode_eq state _
  | dataProcess => exact processData_eq state _
  | validate => exact absurd rfl apart
  | postProcess => exact postProcess_eq state _

/-! ## Stages -/

/-- A stage of a run with the calls that it made. -/
structure StageCalls (pipeline : Pipeline) (stage : Stage) (state : RunState)
    (calls : List StartedCall) (final : RunState) (outcome : Except RunFault Unit) : Prop where
  started : final.started = state.started ++ calls.map StartedCall.label
  timed : final.timed = state.timed
  untouched : ∀ other, other ≠ stage → other ≠ .preProcess → state.Untouched other →
    final.Untouched other
  placed : ∀ call ∈ calls, call.stage = stage
  reports : ∀ call ∈ calls, call.findsFailure = true → stage = .validate
  failsFast : ∀ earlier call later, calls = earlier ++ call :: later →
    call.before.cancelled = false ∧
      call.before.started = state.started ++ earlier.map StartedCall.label ∧
      ∀ other ∈ earlier, other.answer.completes = true
  planned : calls.map StartedCall.label <+:
    leftIn pipeline.options.stopsAtFailure calls (pipeline.labels stage)
  completes : outcome = .ok () → (∀ call ∈ calls, call.answer.completes = true) ∧
    (∀ call ∈ calls, call.findsFailure = false) ∧
    calls.map StartedCall.label =
      leftIn pipeline.options.stopsAtFailure calls (pipeline.labels stage)

theorem findsFailure_eq (call : StartedCall) :
    call.findsFailure = call.findings.any fun finding => finding.severity.isFailure := by
  unfold StartedCall.findsFailure StartedCall.findings
  cases call.answer.report <;> rfl

/-- The calls of a stage in terms of the state that they leave, before a report is made of
what validators found. -/
theorem stageCalls_of_performs {calls : List StartedCall} {middle final : RunState}
    {ended outcome : Except RunFault Unit}
    (performs : Performs pipeline.options.stopsAtFailure state (pipeline.tasks table stage) calls
      middle ended)
    (started : final.started = middle.started) (timed : final.timed = middle.timed)
    (untouched : ∀ other, other ≠ stage → middle.Untouched other → final.Untouched other)
    (done : outcome = .ok () → ended = .ok ())
    (clean : outcome = .ok () → ∀ call ∈ calls, call.findsFailure = false) :
    pipeline.StageCalls stage state calls final outcome := by
  have planned := performs.prefix_leftIn
  rw [map_label_tasks] at planned
  have found (call : StartedCall) (listed : call ∈ calls) :
      call.stage = stage ∧ (call.findsFailure = true → stage = .validate) := by
    obtain ⟨task, member, -, same, -⟩ := performs.exists_task listed
    refine ⟨(congrArg Prod.fst same).trans (stage_of_mem_tasks task member), fun failing => ?_⟩
    by_contra apart
    have silent := performs.report_eq_none
      (fun other listed => stage_of_mem_tasks other listed ▸ apart) listed
    rw [StartedCall.findsFailure, silent] at failing
    cases failing
  exact {
    started := started.trans performs.started
    timed := timed.trans performs.timed
    untouched := fun other apart resolved empty =>
      untouched other apart (performs.untouched stage_of_mem_tasks apart resolved empty)
    placed := fun call listed => (found call listed).1
    reports := fun call listed => (found call listed).2
    failsFast := fun earlier call later split => performs.failsFast split
    planned := planned.1
    completes := fun ok => by
      refine ⟨?_, clean ok, planned.2 (done ok)⟩
      rw [done ok] at performs
      exact performs.completes }

theorem stageCalls (pipeline : Pipeline) (table : String) (state : RunState) (stage : Stage) :
    pipeline.StageCalls stage state (pipeline.callsOf table state stage)
      (pipeline.workOf table state stage).1 (pipeline.workOf table state stage).2 := by
  have performs := performs_perform pipeline.options.stopsAtFailure state
    (@lawful_tasks pipeline table stage)
  by_cases validates : stage = .validate
  · subst validates
    show pipeline.StageCalls .validate state _
      (state.validate pipeline.options.stopsAtFailure table pipeline.validators).1
      (state.validate pipeline.options.stopsAtFailure table pipeline.validators).2
    unfold RunState.validate
    cases called : state.callValidators pipeline.options.stopsAtFailure .empty
        pipeline.validators with
    | mk next ended =>
        cases ended with
        | error fault =>
            obtain ⟨left, -⟩ := callValidators_eq pipeline.options.stopsAtFailure .empty state
              pipeline.validators
            rw [called] at left
            change (perform pipeline.options.stopsAtFailure state
              (pipeline.tasks table .validate)).2.1 = next at left
            refine stageCalls_of_performs performs ?_ ?_ (fun _ _ => ?_) nofun nofun <;>
              rw [left]
            exact id
        | ok report =>
            obtain ⟨ended, listed⟩ := of_callValidators_ok called
            change (perform pipeline.options.stopsAtFailure state
              (pipeline.tasks table .validate)).2 = (next, .ok ()) at ended
            rw [ended] at performs
            refine stageCalls_of_performs performs ?_ ?_ ?_ (fun _ => rfl) ?_
            · dsimp only
              split <;> rfl
            · dsimp only
              split <;> rfl
            · intro other apart empty
              dsimp only
              cases other with
              | validate => exact absurd rfl apart
              | preProcess | codeGeneration | dataProcess | postProcess =>
                  split <;> exact empty
            · intro passed call member
              dsimp only at passed
              split at passed
              · rename_i none
                rw [listed, ValidationReport.ofFindings, ValidationReport.failureCount_pushAll,
                  ValidationReport.failureCount_empty, Nat.zero_add, List.countP_eq_zero] at none
                rw [findsFailure_eq, List.any_eq_false]
                exact fun finding found => none finding (List.mem_flatMap.mpr ⟨call, member, found⟩)
              · cases passed
  · rw [perform_tasks validates] at performs
    refine stageCalls_of_performs performs rfl rfl (fun _ _ => id) id fun _ call listed => ?_
    have silent := performs.report_eq_none
      (fun other listed => stage_of_mem_tasks other listed ▸ validates) listed
    rw [StartedCall.findsFailure, silent]
    rfl

/-! ## Runs -/

/-- A run through stages with the calls that it made and the stages that it reached. -/
structure RunCalls (pipeline : Pipeline) (stages : List Stage) (state : RunState)
    (calls : List StartedCall) (reached : List Stage) (final : RunState)
    (outcome : Except RunFault Unit) : Prop where
  started : final.started = state.started ++ calls.map StartedCall.label
  begun : reached <+: stages
  timed : final.timed = state.timed ++ reached
  placed : ∀ call ∈ calls, call.stage ∈ reached
  untouched : ∀ other, other ∉ reached → (other = .preProcess → reached = []) →
    state.Untouched other → final.Untouched other
  failsFast : ∀ earlier call later, calls = earlier ++ call :: later →
    call.before.cancelled = false ∧
      call.before.started = state.started ++ earlier.map StartedCall.label ∧
      ∀ other ∈ earlier, other.answer.completes = true
  planned : calls.map StartedCall.label <+: stages.flatMap (pipeline.planned calls)
  failing : ∀ call ∈ calls, call.findsFailure = true → reached.getLast? = some .validate
  completes : outcome = .ok () → reached = stages ∧
    (∀ call ∈ calls, call.answer.completes = true) ∧
    (∀ call ∈ calls, call.findsFailure = false) ∧
    calls.map StartedCall.label = stages.flatMap (pipeline.planned calls)

section Chain

variable {clock : Clock} {stages : List Stage} {own rest : List StartedCall}

theorem runStage_going (clock : Clock) (table : String) (stage : Stage)
    (going : state.cancelled = false) :
    ∃ outcome, pipeline.runStage clock table state stage =
        ({ (pipeline.workOf table state stage).1 with
            timed := (pipeline.workOf table state stage).1.timed ++ [stage] }, outcome) ∧
      (outcome = .ok () → (pipeline.workOf table state stage).2 = .ok ()) := by
  have open_ : ¬ state.cancelled = true := by rw [going]; exact Bool.false_ne_true
  rw [runStage, if_neg open_]
  cases pipeline.workOf table state stage with
  | mk next ended =>
      cases ended with
      | error fault =>
          refine ⟨_, rfl, ?_⟩
          intro done
          cases done
      | ok done =>
          cases pipeline.options.stageBudget with
          | none => exact ⟨_, rfl, fun _ => rfl⟩
          | some budget =>
              dsimp only
              split
              · refine ⟨_, rfl, ?_⟩
                intro done
                cases done
              · exact ⟨_, rfl, fun _ => rfl⟩

theorem planned_append_own (placed : ∀ call ∈ own, call.stage = stage)
    (apart : ∀ call ∈ rest, call.stage ≠ stage) :
    pipeline.planned (own ++ rest) stage =
      leftIn pipeline.options.stopsAtFailure own (pipeline.labels stage) := by
  have kept : own.filter (fun call => call.stage = stage) = own :=
    List.filter_eq_self.mpr fun call listed => decide_eq_true (placed call listed)
  have dropped : rest.filter (fun call => call.stage = stage) = [] :=
    List.filter_eq_nil_iff.mpr fun call listed same => apart call listed (of_decide_eq_true same)
  rw [planned, List.filter_append, kept, dropped, List.append_nil]

theorem planned_append_rest {other : Stage} (placed : ∀ call ∈ own, call.stage = stage)
    (apart : other ≠ stage) :
    pipeline.planned (own ++ rest) other = pipeline.planned rest other := by
  have dropped : own.filter (fun call => call.stage = other) = [] :=
    List.filter_eq_nil_iff.mpr fun call listed same =>
      apart ((of_decide_eq_true same).symm.trans (placed call listed))
  rw [planned, List.filter_append, dropped, List.nil_append, planned]

/-- A run that makes no call and reaches no stage stays as it is. -/
theorem runCalls_idle {outcome : Except RunFault Unit}
    (finished : outcome = .ok () → stages = []) :
    pipeline.RunCalls stages state [] [] state outcome where
  started := (List.append_nil _).symm
  begun := List.nil_prefix
  timed := (List.append_nil _).symm
  placed := List.forall_mem_nil _
  untouched _ _ _ := id
  failsFast earlier call later split := by
    have lengths := congrArg List.length split
    simp at lengths
  planned := List.nil_prefix
  failing := List.forall_mem_nil _
  completes ok := by
    rw [finished ok]
    exact ⟨rfl, List.forall_mem_nil _, List.forall_mem_nil _, rfl⟩

/-- A stage that stops the run is the last one that is reached. -/
theorem StageCalls.runCalls_stopped {ended : Except RunFault Unit} {final : RunState}
    {fault : RunFault}
    (calls : pipeline.StageCalls stage state own final ended) :
    pipeline.RunCalls (stage :: stages) state own [stage]
      { final with timed := final.timed ++ [stage] } (.error fault) where
  started := calls.started
  begun := List.cons_prefix_cons.mpr ⟨rfl, List.nil_prefix⟩
  timed := congrArg (· ++ [stage]) calls.timed
  placed call listed := List.mem_singleton.mpr (calls.placed call listed)
  untouched other unreached first empty := by
    have apart : other ≠ stage := fun same => unreached (List.mem_singleton.mpr same)
    have resolved : other ≠ .preProcess := fun same => List.cons_ne_nil _ _ (first same)
    have kept := calls.untouched other apart resolved empty
    cases other <;> exact kept
  failsFast := calls.failsFast
  planned := by
    have here : pipeline.planned (own ++ []) stage = _ :=
      planned_append_own calls.placed (List.forall_mem_nil _)
    rw [List.append_nil] at here
    rw [List.flatMap_cons, here]
    exact calls.planned.trans (List.prefix_append _ _)
  failing call listed failing := congrArg some (calls.reports call listed failing)
  completes := nofun

theorem StageCalls.runCalls_continued {ended outcome : Except RunFault Unit}
    {next final : RunState} {reached : List Stage} (distinct : (stage :: stages).Nodup)
    (calls : pipeline.StageCalls stage state own next ended) (finished : ended = .ok ())
    (later : pipeline.RunCalls stages { next with timed := next.timed ++ [stage] } rest reached final
      outcome) :
    pipeline.RunCalls (stage :: stages) state (own ++ rest) (stage :: reached) final outcome := by
  obtain ⟨complete, clean, whole⟩ := calls.completes finished
  have beyond : ∀ call ∈ rest, call.stage ≠ stage := by
    intro call listed same
    exact (List.nodup_cons.mp distinct).1 (later.begun.mem (same ▸ later.placed call listed))
  have plan : (stage :: stages).flatMap (pipeline.planned (own ++ rest)) =
      own.map StartedCall.label ++ stages.flatMap (pipeline.planned rest) := by
    rw [List.flatMap_cons, planned_append_own calls.placed beyond, ← whole]
    congr 1
    refine List.flatMap_congr fun other listed => planned_append_rest calls.placed ?_
    rintro rfl
    exact (List.nodup_cons.mp distinct).1 listed
  exact {
    started := by
      rw [later.started, List.map_append, ← List.append_assoc]
      exact congrArg (· ++ rest.map StartedCall.label) calls.started
    begun := List.cons_prefix_cons.mpr ⟨rfl, later.begun⟩
    timed := by
      rw [later.timed]
      dsimp only
      rw [calls.timed, List.append_assoc]
      rfl
    placed := by
      intro call listed
      rcases List.mem_append.mp listed with here | there
      · exact List.mem_cons.mpr (.inl (calls.placed call here))
      · exact List.mem_cons_of_mem _ (later.placed call there)
    untouched := by
      intro other unreached first empty
      have apart : other ≠ stage := fun same => unreached (List.mem_cons.mpr (.inl same))
      have resolved : other ≠ .preProcess := fun same => List.cons_ne_nil _ _ (first same)
      have kept := calls.untouched other apart resolved empty
      refine later.untouched other (fun member => unreached (List.mem_cons_of_mem _ member))
        (fun same => absurd same resolved) ?_
      cases other <;> exact kept
    failsFast := by
      intro earlier call after split
      rcases List.append_eq_append_iff.mp split with ⟨middle, front, back⟩ | ⟨middle, front, back⟩
      · obtain ⟨going, started, before⟩ := later.failsFast middle call after back
        refine ⟨going, ?_, fun other listed => ?_⟩
        · rw [started, front, List.map_append, ← List.append_assoc]
          exact congrArg (· ++ middle.map StartedCall.label) calls.started
        · rw [front] at listed
          rcases List.mem_append.mp listed with here | there
          · exact complete other here
          · exact before other there
      · cases middle with
        | nil =>
            obtain ⟨going, started, before⟩ := later.failsFast [] call after back.symm
            rw [List.append_nil] at front
            subst front
            refine ⟨going, ?_, complete⟩
            rw [started]
            exact (List.append_nil _).trans calls.started
        | cons first middle =>
            obtain ⟨rfl, -⟩ := List.cons.inj back
            exact calls.failsFast earlier call middle front
    planned := by
      rw [plan, List.map_append]
      exact (List.prefix_append_right_inj _).mpr later.planned
    failing := by
      intro call listed failing
      rcases List.mem_append.mp listed with here | there
      · rw [clean call here] at failing
        cases failing
      · rw [List.getLast?_cons, later.failing call there failing]
        rfl
    completes := by
      intro ok
      obtain ⟨same, completes, passes, labels⟩ := later.completes ok
      refine ⟨by rw [same], ?_, ?_, by rw [plan, List.map_append, labels]⟩
      · exact List.forall_mem_append.mpr ⟨complete, completes⟩
      · exact List.forall_mem_append.mpr ⟨clean, passes⟩ }

theorem runCalls (pipeline : Pipeline) (clock : Clock) (table : String) (state : RunState)
    (distinct : stages.Nodup) :
    ∃ reached, pipeline.RunCalls stages state (pipeline.callsFrom clock table state stages) reached
      (pipeline.runStages clock table state stages).1
      (pipeline.runStages clock table state stages).2 := by
  induction stages generalizing state with
  | nil => exact ⟨[], runCalls_idle fun _ => rfl⟩
  | cons stage stages ih =>
      cases cancelled : state.cancelled with
      | true =>
          have stopped : pipeline.runStage clock table state stage =
              (state, .error (.cancelled stage)) := if_pos cancelled
          rw [callsFrom, if_pos cancelled, runStages_cons_error stopped]
          exact ⟨[], runCalls_idle nofun⟩
      | false =>
          have open_ : ¬ state.cancelled = true := by rw [cancelled]; exact Bool.false_ne_true
          have own := pipeline.stageCalls table state stage
          obtain ⟨outcome, ran, finished⟩ := runStage_going clock table stage cancelled
          rw [callsFrom, if_neg open_]
          cases outcome with
          | error fault =>
              rw [runStages_cons_error ran, ran]
              dsimp only
              rw [List.append_nil]
              exact ⟨[stage], own.runCalls_stopped⟩
          | ok done =>
              rw [runStages_cons_ok ran, ran]
              obtain ⟨reached, later⟩ := ih _ (List.nodup_cons.mp distinct).2
              exact ⟨stage :: reached, own.runCalls_continued distinct (finished rfl) later⟩

end Chain

theorem nodup_all : Stage.all.Nodup := by decide

theorem postProcess_not_mem {reached : List Stage} (begun : reached <+: Stage.all)
    (last : reached.getLast? = some .validate) : Stage.postProcess ∉ reached := by
  have each : ∀ n ≤ 5, (Stage.all.take n).getLast? = some .validate →
      Stage.postProcess ∉ Stage.all.take n := by decide
  rw [List.prefix_iff_eq_take.mp begun] at last ⊢
  exact each reached.length begun.length_le last

theorem eq_nil_of_not_preProcess {reached : List Stage} (begun : reached <+: Stage.all)
    (unreached : Stage.preProcess ∉ reached) : reached = [] := by
  cases reached with
  | nil => rfl
  | cons first rest =>
      obtain rfl := (List.cons_prefix_cons.mp begun).1
      exact absurd List.mem_cons_self unreached

theorem run_eq (pipeline : Pipeline) (clock : Clock) (cancelled : Bool) (sheet : Sheet) :
    (pipeline.run clock cancelled sheet).state =
        (pipeline.runStages clock sheet.name (.initial sheet cancelled) Stage.all).1 ∧
      ((pipeline.run clock cancelled sheet).fault = none →
        (pipeline.runStages clock sheet.name (.initial sheet cancelled) Stage.all).2 = .ok ()) := by
  unfold run
  cases pipeline.runStages clock sheet.name (.initial sheet cancelled) Stage.all with
  | mk final outcome =>
      cases outcome with
      | error fault => exact ⟨rfl, nofun⟩
      | ok done => exact ⟨rfl, fun _ => rfl⟩

theorem untouched_initial (sheet : Sheet) (cancelled : Bool) (stage : Stage) :
    (RunState.initial sheet cancelled).Untouched stage := by
  cases stage with
  | dataProcess => exact ⟨rfl, rfl, rfl⟩
  | preProcess | codeGeneration | validate | postProcess => rfl

/-- What a run calls is a beginning of one sequence: the stages in their order, and in each
the processors by priority and registration, up to a first validator that reports a failure
where the others are then left out. A call starts only in a run that is not cancelled and
in which every earlier call completed, and results are processed only if no validator found
a failure. A run that is cut short reports where, and has nothing from the stages that it
did not reach. -/
theorem run_failsFast (options : RunOptions) (registrations : List Registration) (clock : Clock)
    (cancelled : Bool) (sheet : Sheet) :
    let pipeline := ofRegistrations options registrations
    let calls := pipeline.calls clock cancelled sheet
    let report := pipeline.run clock cancelled sheet
    let sequence := Stage.all.flatMap (pipeline.planned calls)
    pipeline.Registered registrations ∧
      report.state.started = calls.map StartedCall.label ∧
      calls.map StartedCall.label <+: sequence ∧
      (∀ earlier call later, calls = earlier ++ call :: later →
        call.before.cancelled = false ∧
          call.before.started = earlier.map StartedCall.label ∧
          ∀ other ∈ earlier, other.answer.completes = true) ∧
      (∀ call ∈ calls, call.findsFailure = true → ∀ other ∈ calls, other.stage ≠ .postProcess) ∧
      report.state.timed <+: Stage.all ∧
      (∀ stage, stage ∉ report.state.timed →
        report.state.Untouched stage ∧ ∀ call ∈ calls, call.stage ≠ stage) ∧
      (report.state.timed ≠ Stage.all ∨ calls.map StartedCall.label ≠ sequence ∨
          (∃ call ∈ calls, call.answer.completes = false ∨ call.findsFailure = true) ∨
          report.fault.isSome = true →
        report.success = false ∧ report.failedStage.isSome = true ∧ report.errors ≠ []) := by
  intro pipeline calls report sequence
  obtain ⟨reached, run⟩ := runCalls pipeline clock sheet.name (.initial sheet cancelled)
    nodup_all
  obtain ⟨final, ended⟩ := run_eq pipeline clock cancelled sheet
  rw [← final] at run
  have timed : report.state.timed = reached := run.timed
  refine ⟨registered_ofRegistrations options registrations, run.started, run.planned,
    run.failsFast, ?_, ?_, ?_, ?_⟩
  · intro call listed failing other member post
    have last := run.failing call listed failing
    exact postProcess_not_mem run.begun last (post ▸ run.placed other member)
  · rw [timed]
    exact run.begun
  · intro stage unreached
    rw [timed] at unreached
    refine ⟨run.untouched stage unreached ?_ (untouched_initial sheet cancelled stage),
      fun call listed same => unreached (same ▸ run.placed call listed)⟩
    rintro rfl
    exact eq_nil_of_not_preProcess run.begun unreached
  · intro short
    cases stopped : report.fault with
    | none =>
        exfalso
        obtain ⟨whole, complete, clean, labels⟩ := run.completes (ended stopped)
        rcases short with unreached | cut | ⟨call, listed, incomplete | failing⟩ | faulty
        · exact unreached (timed.trans whole)
        · exact cut labels
        · rw [complete call listed] at incomplete
          cases incomplete
        · rw [clean call listed] at failing
          cases failing
        · rw [stopped] at faulty
          cases faulty
    | some fault =>
        refine ⟨?_, ?_, ?_⟩
        · rw [RunReport.success, stopped]
          rfl
        · rw [RunReport.failedStage, stopped]
          rfl
        · rw [RunReport.errors, stopped]
          exact List.append_ne_nil_of_right_ne_nil _ (List.cons_ne_nil _ _)

end Pipeline

end SheetCompiler

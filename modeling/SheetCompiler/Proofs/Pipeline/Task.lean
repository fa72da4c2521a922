import SheetCompiler.Proofs.Pipeline.Run

/-!
# Processors at their places

All kinds of processors take part in a run in the same way: each is called once, in a state
that is not cancelled and has what it needs, or it stops the run as it is. What it writes
goes into the fields of its own stage.
-/

set_option autoImplicit false

namespace SheetCompiler

/-- How a call ended, and what it reported where it validates. -/
structure Answer where
  completes : Bool
  report : Option ValidationReport

def Ending.answer {α : Type} (report : α → Option ValidationReport) : Ending α → Answer
  | .done found => ⟨true, report found⟩
  | .failed _ | .crashed _ => ⟨false, none⟩

theorem Ending.report_answer_none {α : Type} (ending : Ending α) :
    (ending.answer fun _ => none).report = none := by
  cases ending <;> rfl

/-- A call that has started, with the state it found and the answer it gave. -/
structure StartedCall where
  stage : Stage
  name : String
  before : RunState
  answer : Answer

namespace StartedCall

def label (call : StartedCall) : Stage × String := (call.stage, call.name)

def rejects (call : StartedCall) : Bool := call.answer.report.any fun report => !report.isValid

/-- Whether a validator reported a finding of the two highest ranks. -/
def findsFailure (call : StartedCall) : Bool :=
  call.answer.report.any fun report => report.findings.any fun finding => finding.severity.isFailure

end StartedCall

/-- A processor at its place in a run: the answer it gives in a state, if it is called
there at all, and what becomes of the state. -/
structure Task where
  stage : Stage
  name : String
  answer? : RunState → Option Answer
  work : RunState → RunState × Except RunFault Unit

namespace Task

def label (task : Task) : Stage × String := (task.stage, task.name)

def call (task : Task) (state : RunState) (answer : Answer) : StartedCall :=
  ⟨task.stage, task.name, state, answer⟩

/-- The answer of a processor, unless the run is cancelled. -/
def unlessCancelled (state : RunState) (answer : Option Answer) : Option Answer :=
  if state.cancelled then none else answer

def ofPre (processor : PreProcessor) : Task where
  stage := .preProcess
  name := processor.name
  answer? state := unlessCancelled state <| some <|
    (processor.call () ⟨state.sheet, state.log⟩).ending.answer fun _ => none
  work state := state.preProcess [processor]

def resolver (nameSpace table : String) : Task where
  stage := .preProcess
  name := "schema-resolver"
  answer? state := unlessCancelled state <| some
    ⟨(Schema.ofSheet state.sheet nameSpace).isOk, none⟩
  work state := state.resolveSchema nameSpace table

def ofGenerator (generator : CodeGenerator) : Task where
  stage := .codeGeneration
  name := generator.name
  answer? state := unlessCancelled state <| state.schema.map fun schema =>
    (generator.call schema .empty).ending.answer fun _ => none
  work state := state.generateCode [generator]

def ofData (processor : DataProcessor) : Task where
  stage := .dataProcess
  name := processor.name
  answer? state := unlessCancelled state <| state.schema.map fun schema =>
    (processor.call () ⟨schema, state.sheet, state.cellErrors, state.relations,
      state.localization, state.log⟩).ending.answer fun _ => none
  work state := state.processData [processor]

def ofValidator (validator : Validator) : Task where
  stage := .validate
  name := validator.name
  answer? state := unlessCancelled state <| state.schema.map fun schema =>
    (validator.call ⟨schema, state.sheet, state.cellErrors, state.relations⟩ ()).ending.answer some
  work state :=
    let called := state.callValidators false .empty [validator]
    (called.1, called.2.map fun _ => ())

def ofPost (processor : PostProcessor) : Task where
  stage := .postProcess
  name := processor.name
  answer? state := unlessCancelled state <| state.schema.map fun schema =>
    (processor.call ⟨schema, state.sheet, state.validation⟩
      ⟨state.payload, state.log⟩).ending.answer fun _ => none
  work state := state.postProcess [processor]

end Task

/-- The fields that only a stage fills are empty. -/
def RunState.Untouched (state : RunState) : Stage → Prop
  | .preProcess => state.schema = none
  | .codeGeneration => state.files = []
  | .dataProcess =>
      state.cellErrors = [] ∧ state.relations = [] ∧ state.localization = .empty
  | .validate => state.validation = .empty
  | .postProcess => state.payload = []

/-- What a call does to a run, whatever its processor does. -/
structure Task.Does (task : Task) (answer : Answer) (state : RunState)
    (result : RunState × Except RunFault Unit) : Prop where
  answered : result.2.isOk = answer.completes
  started : result.1.started = state.started ++ [task.label]
  timed : result.1.timed = state.timed
  untouched : ∀ other, other ≠ task.stage → other ≠ .preProcess →
    state.Untouched other → result.1.Untouched other
  reports : task.stage ≠ .validate → answer.report = none

/-- A processor is called once in a run that is not cancelled, or it stops the run as it is. -/
structure Task.Lawful (task : Task) : Prop where
  going : ∀ {state answer}, task.answer? state = some answer → state.cancelled = false
  refuses : ∀ {state}, task.answer? state = none → ∃ fault, task.work state = (state, .error fault)
  does : ∀ {state answer}, task.answer? state = some answer →
    task.Does answer state (task.work state)

namespace RunState

variable {σ α : Type} {stage : Stage} {name : String} {state next : RunState}
  {call : Unit → Call σ α} {store : σ → RunState → RunState} {answer : α} {fault : RunFault}

/-- The state that a call leaves behind. -/
def afterCall (state : RunState) (stage : Stage) (name : String) (call : Call σ α)
    (store : σ → RunState → RunState) : RunState :=
  { store call.state { state with started := state.started ++ [(stage, name)] } with
    cancelled := call.cancels }

theorem invoke_cancelled (cancelled : state.cancelled = true) :
    state.invoke stage name call store = (state, .error (.cancelled stage)) :=
  if_pos cancelled

theorem of_invoke_ok (going : state.cancelled = false)
    (invoked : state.invoke stage name call store = (next, .ok answer)) :
    (call ()).ending = .done answer ∧ next = state.afterCall stage name (call ()) store := by
  rw [invoke_going going] at invoked
  cases ended : (call ()).ending with
  | done found =>
      simp only [ended] at invoked
      obtain ⟨same, answered⟩ := Prod.mk.inj invoked
      exact ⟨congrArg _ (Except.ok.inj answered), same.symm⟩
  | failed fault =>
      simp only [ended] at invoked
      cases (Prod.mk.inj invoked).2
  | crashed crash =>
      simp only [ended] at invoked
      cases (Prod.mk.inj invoked).2

theorem of_invoke_error (going : state.cancelled = false)
    (invoked : state.invoke stage name call store = (next, .error fault)) :
    (∀ reports, (call ()).ending.answer reports = ⟨false, none⟩) ∧
      next = state.afterCall stage name (call ()) store := by
  rw [invoke_going going] at invoked
  cases ended : (call ()).ending with
  | done found =>
      simp only [ended] at invoked
      cases (Prod.mk.inj invoked).2
  | failed fault =>
      simp only [ended] at invoked
      exact ⟨fun _ => rfl, (Prod.mk.inj invoked).1.symm⟩
  | crashed crash =>
      simp only [ended] at invoked
      exact ⟨fun _ => rfl, (Prod.mk.inj invoked).1.symm⟩

end RunState

namespace Task

variable {state : RunState} {answer : Answer} {found : Option Answer}

theorem unlessCancelled_eq_some (called : unlessCancelled state found = some answer) :
    state.cancelled = false ∧ found = some answer := by
  unfold unlessCancelled at called
  split at called
  · cases called
  · rename_i going
    exact ⟨Bool.eq_false_iff.mpr going, called⟩

theorem unlessCancelled_eq_none (idle : unlessCancelled state found = none) :
    state.cancelled = true ∨ found = none := by
  unfold unlessCancelled at idle
  split at idle
  · exact .inl ‹_›
  · exact .inr idle

/-- A processor that needs a schema refuses a run without one, and one that is cancelled. -/
theorem exists_refusal {work : RunState → RunState × Except RunFault Unit}
    {answers : Schema → Answer}
    (idle : unlessCancelled state (state.schema.map answers) = none)
    (unresolved : state.schema = none → ∃ fault, work state = (state, .error fault))
    (cancelled : ∀ schema, state.schema = some schema → state.cancelled = true →
      ∃ fault, work state = (state, .error fault)) :
    ∃ fault, work state = (state, .error fault) := by
  cases resolved : state.schema with
  | none => exact unresolved resolved
  | some schema =>
      rcases unlessCancelled_eq_none idle with stopped | none
      · exact cancelled schema resolved stopped
      · rw [resolved] at none
        cases none

/-- Storing what a processor writes touches the fields of its own stage alone. -/
structure Stores {σ : Type} (stage : Stage) (store : σ → RunState → RunState) : Prop where
  started : ∀ written state, (store written state).started = state.started
  timed : ∀ written state, (store written state).timed = state.timed
  untouched : ∀ written state other, other ≠ stage → other ≠ .preProcess →
    state.Untouched other → (store written state).Untouched other

/-- A call that has been made and stored. -/
theorem Stores.does {σ α : Type} {task : Task} {store : σ → RunState → RunState}
    {outcome : Except RunFault Unit} (stores : Stores task.stage store) (call : Call σ α)
    (answered : outcome.isOk = answer.completes)
    (reports : task.stage ≠ .validate → answer.report = none) :
    task.Does answer state (state.afterCall task.stage task.name call store, outcome) where
  answered := answered
  started := stores.started call.state _
  timed := stores.timed call.state _
  untouched other apart resolved kept := by
    have stored := stores.untouched call.state
      { state with started := state.started ++ [task.label] } other apart resolved
    cases other <;> exact stored kept
  reports := reports

theorem stores_nothing {σ : Type} (stage : Stage) :
    Stores stage fun (_ : σ) (state : RunState) => state :=
  ⟨fun _ _ => rfl, fun _ _ => rfl, fun _ _ _ _ _ kept => kept⟩

/-! ## Kinds of processors -/

theorem lawful_ofPre (processor : PreProcessor) : (ofPre processor).Lawful where
  going called := (unlessCancelled_eq_some called).1
  refuses idle := by
    rcases unlessCancelled_eq_none idle with cancelled | none
    · exact ⟨.cancelled .preProcess, by
        show RunState.preProcess _ _ = _
        rw [RunState.preProcess, RunState.invoke_cancelled cancelled]⟩
    · cases none
  does {state answer} called := by
    obtain ⟨going, same⟩ := unlessCancelled_eq_some called
    obtain rfl := Option.some.inj same
    have stores : Stores (ofPre processor).stage fun (raw : RawState) (state : RunState) =>
        { state with sheet := raw.sheet, log := raw.log } :=
      ⟨fun _ _ => rfl, fun _ _ => rfl, fun _ _ other _ _ kept => by cases other <;> exact kept⟩
    show Does _ _ state (state.preProcess [processor])
    unfold RunState.preProcess
    dsimp only
    split
    · rename_i next invoked
      obtain ⟨ended, rfl⟩ := RunState.of_invoke_ok going invoked
      rw [ended]
      exact stores.does _ rfl fun _ => rfl
    · rename_i next fault invoked
      obtain ⟨ended, rfl⟩ := RunState.of_invoke_error going invoked
      rw [ended]
      exact stores.does _ rfl fun _ => rfl

theorem lawful_resolver (nameSpace table : String) : (resolver nameSpace table).Lawful where
  going called := (unlessCancelled_eq_some called).1
  refuses idle := by
    rcases unlessCancelled_eq_none idle with cancelled | none
    · exact ⟨.cancelled .preProcess, by
        show RunState.resolveSchema _ _ _ = _
        rw [RunState.resolveSchema, RunState.invoke_cancelled cancelled]⟩
    · cases none
  does {state answer} called := by
    obtain ⟨going, same⟩ := unlessCancelled_eq_some called
    obtain rfl := Option.some.inj same
    show Does _ _ state (state.resolveSchema nameSpace table)
    unfold RunState.resolveSchema
    cases resolved : Schema.ofSheet state.sheet nameSpace with
    | error shortage =>
        dsimp only
        split
        · rename_i next fault invoked
          obtain ⟨-, rfl⟩ := RunState.of_invoke_error going invoked
          exact (stores_nothing _).does _ rfl fun _ => rfl
        · rename_i next schema diagnostics invoked
          cases (RunState.of_invoke_ok going invoked).1
    | ok outcome =>
        dsimp only
        split
        · rename_i next fault invoked
          cases (RunState.of_invoke_error going invoked).1 fun _ => none
        · rename_i next schema diagnostics invoked
          obtain ⟨-, rfl⟩ := RunState.of_invoke_ok going invoked
          refine ⟨rfl, rfl, rfl, fun other _ apart kept => ?_, fun _ => rfl⟩
          cases other with
          | preProcess => exact absurd rfl apart
          | codeGeneration | dataProcess | validate | postProcess => exact kept

theorem foldl_addFile (state : RunState) (files : List CodeFile) :
    ∃ log listed, files.foldl RunState.addFile state = { state with log, files := listed } := by
  induction files generalizing state with
  | nil => exact ⟨state.log, state.files, rfl⟩
  | cons file files ih =>
      obtain ⟨log, listed, added⟩ := ih (state.addFile file)
      exact ⟨log, listed, added⟩

theorem lawful_ofGenerator (generator : CodeGenerator) : (ofGenerator generator).Lawful where
  going called := (unlessCancelled_eq_some called).1
  refuses {state} idle := by
    refine exists_refusal idle (fun unresolved => ?_) fun schema resolved cancelled => ?_
    · show ∃ fault, state.generateCode [generator] = _
      rw [RunState.generateCode, unresolved]
      exact ⟨_, rfl⟩
    · show ∃ fault, state.generateCode [generator] = _
      rw [RunState.generateCode, resolved]
      dsimp only
      rw [RunState.invoke_cancelled cancelled]
      exact ⟨_, rfl⟩
  does {state answer} called := by
    obtain ⟨going, same⟩ := unlessCancelled_eq_some called
    obtain ⟨schema, resolved, rfl⟩ := Option.map_eq_some_iff.mp same
    show Does _ _ state (state.generateCode [generator])
    unfold RunState.generateCode
    rw [resolved]
    dsimp only
    split
    · rename_i next files log invoked
      obtain ⟨ended, rfl⟩ := RunState.of_invoke_ok going invoked
      have completes :
          ((generator.call schema .empty).ending.answer fun _ => none).completes = true := by
        cases ending : (generator.call schema .empty).ending with
        | done written => rfl
        | failed fault | crashed crash => simp [ending] at ended
      rw [RunState.generateCode]
      obtain ⟨noted, listed, added⟩ := foldl_addFile _ files
      rw [added]
      refine ⟨completes.symm, rfl, rfl, fun other apart _ kept => ?_, fun _ => ?_⟩
      · cases other with
        | codeGeneration => exact absurd rfl apart
        | preProcess | dataProcess | validate | postProcess => exact kept
      · exact Ending.report_answer_none _
    · rename_i next fault invoked
      obtain ⟨ended, rfl⟩ := RunState.of_invoke_error going invoked
      have stops :
          ((generator.call schema .empty).ending.answer fun _ => none).completes = false := by
        cases ending : (generator.call schema .empty).ending with
        | done written => simp [ending, Ending.answer] at ended
        | failed fault | crashed crash => rfl
      exact (stores_nothing _).does _ stops.symm fun _ => Ending.report_answer_none _

theorem lawful_ofData (processor : DataProcessor) : (ofData processor).Lawful where
  going called := (unlessCancelled_eq_some called).1
  refuses {state} idle := by
    refine exists_refusal idle (fun unresolved => ?_) fun schema resolved cancelled => ?_
    · show ∃ fault, state.processData [processor] = _
      rw [RunState.processData, unresolved]
      exact ⟨_, rfl⟩
    · show ∃ fault, state.processData [processor] = _
      rw [RunState.processData, resolved]
      dsimp only
      rw [RunState.invoke_cancelled cancelled]
      exact ⟨_, rfl⟩
  does {state answer} called := by
    obtain ⟨going, same⟩ := unlessCancelled_eq_some called
    obtain ⟨schema, resolved, rfl⟩ := Option.map_eq_some_iff.mp same
    have stores : Stores (ofData processor).stage fun (data : DataState) (state : RunState) =>
        { state with
          schema := some data.schema
          sheet := data.sheet
          cellErrors := data.cellErrors
          relations := data.relations
          localization := data.localization
          log := data.log } := by
      refine ⟨fun _ _ => rfl, fun _ _ => rfl, fun _ _ other apart unresolved kept => ?_⟩
      cases other with
      | preProcess => exact absurd rfl unresolved
      | dataProcess => exact absurd rfl apart
      | codeGeneration | validate | postProcess => exact kept
    show Does _ _ state (state.processData [processor])
    unfold RunState.processData
    rw [resolved]
    dsimp only
    split
    · rename_i next invoked
      obtain ⟨ended, rfl⟩ := RunState.of_invoke_ok going invoked
      rw [ended]
      exact stores.does _ rfl fun _ => rfl
    · rename_i next fault invoked
      obtain ⟨ended, rfl⟩ := RunState.of_invoke_error going invoked
      rw [ended]
      exact stores.does _ rfl fun _ => rfl

theorem lawful_ofValidator (validator : Validator) : (ofValidator validator).Lawful where
  going called := (unlessCancelled_eq_some called).1
  refuses {state} idle := by
    refine exists_refusal idle (fun unresolved => ?_) fun schema resolved cancelled => ?_
    · show ∃ fault, ((state.callValidators false .empty [validator]).1,
        (state.callValidators false .empty [validator]).2.map fun _ => ()) = _
      rw [RunState.callValidators, unresolved]
      exact ⟨_, rfl⟩
    · show ∃ fault, ((state.callValidators false .empty [validator]).1,
        (state.callValidators false .empty [validator]).2.map fun _ => ()) = _
      rw [RunState.callValidators, resolved]
      dsimp only
      rw [RunState.invoke_cancelled cancelled]
      exact ⟨_, rfl⟩
  does {state answer} called := by
    obtain ⟨going, same⟩ := unlessCancelled_eq_some called
    obtain ⟨schema, resolved, rfl⟩ := Option.map_eq_some_iff.mp same
    show Does _ _ state ((state.callValidators false .empty [validator]).1,
      (state.callValidators false .empty [validator]).2.map fun _ => ())
    unfold RunState.callValidators
    rw [resolved]
    dsimp only
    split
    · rename_i next found invoked
      obtain ⟨ended, rfl⟩ := RunState.of_invoke_ok going invoked
      rw [ended, Bool.and_false, if_neg Bool.false_ne_true]
      exact (stores_nothing _).does _ rfl fun other => absurd rfl other
    · rename_i next fault invoked
      obtain ⟨ended, rfl⟩ := RunState.of_invoke_error going invoked
      rw [ended]
      exact (stores_nothing _).does _ rfl fun _ => rfl

theorem lawful_ofPost (processor : PostProcessor) : (ofPost processor).Lawful where
  going called := (unlessCancelled_eq_some called).1
  refuses {state} idle := by
    refine exists_refusal idle (fun unresolved => ?_) fun schema resolved cancelled => ?_
    · show ∃ fault, state.postProcess [processor] = _
      rw [RunState.postProcess, unresolved]
      exact ⟨_, rfl⟩
    · show ∃ fault, state.postProcess [processor] = _
      rw [RunState.postProcess, resolved]
      dsimp only
      rw [RunState.invoke_cancelled cancelled]
      exact ⟨_, rfl⟩
  does {state answer} called := by
    obtain ⟨going, same⟩ := unlessCancelled_eq_some called
    obtain ⟨schema, resolved, rfl⟩ := Option.map_eq_some_iff.mp same
    have stores : Stores (ofPost processor).stage fun (post : PostState) (state : RunState) =>
        { state with payload := post.payload, log := post.log } := by
      refine ⟨fun _ _ => rfl, fun _ _ => rfl, fun _ _ other apart _ kept => ?_⟩
      cases other with
      | postProcess => exact absurd rfl apart
      | preProcess | codeGeneration | dataProcess | validate => exact kept
    show Does _ _ state (state.postProcess [processor])
    unfold RunState.postProcess
    rw [resolved]
    dsimp only
    split
    · rename_i next invoked
      obtain ⟨ended, rfl⟩ := RunState.of_invoke_ok going invoked
      rw [ended]
      exact stores.does _ rfl fun _ => rfl
    · rename_i next fault invoked
      obtain ⟨ended, rfl⟩ := RunState.of_invoke_error going invoked
      rw [ended]
      exact stores.does _ rfl fun _ => rfl

end Task

end SheetCompiler

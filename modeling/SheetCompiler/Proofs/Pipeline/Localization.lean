import SheetCompiler.Pipeline.Course
import SheetCompiler.Proofs.Localization.Restoration
import SheetCompiler.Proofs.Pipeline.Success
import SheetCompiler.Proofs.Schema.Resolved

/-!
# Localization tables of runs

Only the processors of data write into the localization table of a run, so what each of
them keeps true of it holds of every run, wherever the run stops. The standard processors
keep its keys distinct and apart from the reserved ones.
-/

set_option autoImplicit false

namespace SheetCompiler

section Invariants

variable {holds : LocalizationTable → Prop}

/-- A processor of data that never spoils a property of the localization table. -/
def Processor.Keeps (holds : LocalizationTable → Prop) (processor : DataProcessor) : Prop :=
  ∀ data : DataState, holds data.localization →
    holds (processor.call () data).state.localization

namespace RunState

variable {state after : RunState}

/-! ## Stages -/

theorem localization_of_invoke {σ α : Type} {stage : Stage} {name : String}
    {call : Unit → Call σ α} {store : σ → RunState → RunState} {outcome : Except RunFault α}
    (called : state.invoke stage name call store = (after, outcome))
    (before : holds state.localization)
    (stores : ∀ state, holds state.localization → holds (store (call ()).state state).localization) :
    holds after.localization := by
  unfold invoke at called
  split at called
  · obtain ⟨rfl, -⟩ := Prod.mk.inj called
    exact before
  · dsimp only at called
    split at called <;> obtain ⟨rfl, -⟩ := Prod.mk.inj called <;> exact stores _ before

theorem localization_preProcess (processors : List PreProcessor)
    (before : holds state.localization) :
    holds (state.preProcess processors).1.localization := by
  induction processors generalizing state with
  | nil => exact before
  | cons processor processors ih =>
      rw [preProcess]
      split <;> rename_i called
      · exact ih (localization_of_invoke called before fun _ kept => kept)
      · exact localization_of_invoke called before fun _ kept => kept

theorem localization_resolveSchema (nameSpace table : String)
    (before : holds state.localization) :
    holds (state.resolveSchema nameSpace table).1.localization := by
  unfold resolveSchema
  dsimp only
  split <;> rename_i called
  · exact localization_of_invoke called before fun _ kept => kept
  · have kept := localization_of_invoke called before fun _ kept => kept
    exact kept

theorem localization_generateCode (generators : List CodeGenerator)
    (before : holds state.localization) :
    holds (state.generateCode generators).1.localization := by
  induction generators generalizing state with
  | nil => exact before
  | cons generator generators ih =>
      rw [generateCode]
      split
      · exact before
      · dsimp only
        split <;> rename_i called
        · have kept := localization_of_invoke called before fun _ kept => kept
          obtain ⟨_, placed, -⟩ := foldl_addFile _ _
          rw [placed]
          exact ih kept
        · exact localization_of_invoke called before fun _ kept => kept

theorem localization_processData (processors : List DataProcessor)
    (keeps : ∀ processor ∈ processors, processor.Keeps holds)
    (before : holds state.localization) :
    holds (state.processData processors).1.localization := by
  induction processors generalizing state with
  | nil => exact before
  | cons processor processors ih =>
      rw [List.forall_mem_cons] at keeps
      rw [processData]
      split
      · exact before
      · dsimp only
        split <;> rename_i called
        · exact ih keeps.2 (localization_of_invoke called before fun _ _ => keeps.1 _ before)
        · exact localization_of_invoke called before fun _ _ => keeps.1 _ before

theorem localization_callValidators (stops : Bool) (report : ValidationReport)
    (validators : List Validator) (before : holds state.localization) :
    holds (state.callValidators stops report validators).1.localization := by
  induction validators generalizing state report with
  | nil => exact before
  | cons validator validators ih =>
      rw [callValidators]
      split
      · exact before
      · dsimp only
        split <;> rename_i called
        · have kept := localization_of_invoke called before fun _ kept => kept
          split
          · exact kept
          · exact ih _ kept
        · exact localization_of_invoke called before fun _ kept => kept

theorem localization_validate (stops : Bool) (table : String) (validators : List Validator)
    (before : holds state.localization) :
    holds (state.validate stops table validators).1.localization := by
  have checked := localization_callValidators stops .empty validators before
  unfold validate
  split <;> rename_i called <;> rw [called] at checked
  · exact checked
  · dsimp only
    split <;> exact checked

theorem localization_postProcess (processors : List PostProcessor)
    (before : holds state.localization) :
    holds (state.postProcess processors).1.localization := by
  induction processors generalizing state with
  | nil => exact before
  | cons processor processors ih =>
      rw [postProcess]
      split
      · exact before
      · dsimp only
        split <;> rename_i called
        · exact ih (localization_of_invoke called before fun _ kept => kept)
        · exact localization_of_invoke called before fun _ kept => kept

end RunState

namespace Pipeline

variable {pipeline : Pipeline} {state : RunState}

/-! ## Runs -/

theorem localization_runStage (clock : Clock) (table : String) (stage : Stage)
    (keeps : ∀ processor ∈ pipeline.data, processor.Keeps holds)
    (before : holds state.localization) :
    holds (pipeline.runStage clock table state stage).1.localization := by
  have worked : holds (pipeline.workOf table state stage).1.localization := by
    cases stage with
    | preProcess =>
        have trimmed := RunState.localization_preProcess pipeline.pre before
        rw [workOf]
        split <;> rename_i ran <;> rw [ran] at trimmed
        · exact RunState.localization_resolveSchema _ _ trimmed
        · exact trimmed
    | codeGeneration => exact RunState.localization_generateCode _ before
    | dataProcess => exact RunState.localization_processData _ keeps before
    | validate => exact RunState.localization_validate _ _ _ before
    | postProcess => exact RunState.localization_postProcess _ before
  unfold runStage
  split
  · exact before
  · dsimp only
    split
    · exact worked
    · exact worked
    · split <;> exact worked

theorem localization_runStages (clock : Clock) (table : String) (stages : List Stage)
    (keeps : ∀ processor ∈ pipeline.data, processor.Keeps holds)
    (before : holds state.localization) :
    holds (pipeline.runStages clock table state stages).1.localization := by
  induction stages generalizing state with
  | nil => exact before
  | cons stage stages ih =>
      have first := localization_runStage clock table stage keeps before
      rw [runStages]
      split <;> rename_i ran <;> rw [ran] at first
      · exact ih first
      · exact first

/-- What holds of the empty table, and what no processor of data spoils, holds of the
localization table of every run. -/
theorem localization_run (clock : Clock) (cancelled : Bool) (sheet : Sheet)
    (keeps : ∀ processor ∈ pipeline.data, processor.Keeps holds) (starts : holds .empty) :
    holds (pipeline.run clock cancelled sheet).state.localization := by
  have final : holds (pipeline.runStages clock sheet.name (.initial sheet cancelled)
      Stage.all).1.localization := localization_runStages clock sheet.name Stage.all keeps starts
  unfold run
  cases ran : pipeline.runStages clock sheet.name (.initial sheet cancelled) Stage.all with
  | mk last outcome =>
      rw [ran] at final
      cases outcome <;> exact final

/-! ## Interrupted runs -/

theorem localization_firstCalls (count : Nat) (stage : Stage)
    (keeps : ∀ processor ∈ pipeline.data, processor.Keeps holds)
    (before : holds state.localization) :
    holds (pipeline.firstCalls state count stage).1.localization := by
  cases stage with
  | preProcess => exact RunState.localization_preProcess _ before
  | codeGeneration => exact RunState.localization_generateCode _ before
  | dataProcess =>
      exact RunState.localization_processData _
        (fun processor listed => keeps processor (List.mem_of_mem_take listed)) before
  | validate => exact RunState.localization_callValidators _ .empty _ before
  | postProcess => exact RunState.localization_postProcess _ before

theorem localization_stateBeforeCall? {after : RunState} {stage : Stage} {index : Nat}
    (keeps : ∀ processor ∈ pipeline.data, processor.Keeps holds)
    (before : holds state.localization)
    (reached : pipeline.stateBeforeCall? state stage index = some after) :
    holds after.localization := by
  have worked := localization_firstCalls index stage keeps before
  unfold stateBeforeCall? at reached
  split at reached <;> rename_i called
  · split at reached
    · obtain rfl := Option.some.inj reached
      rwa [called] at worked
    · cases reached
  · cases reached

theorem localization_stateAt? {clock : Clock} {cancelled : Bool} {sheet : Sheet}
    {checkpoint : Checkpoint} (keeps : ∀ processor ∈ pipeline.data, processor.Keeps holds)
    (starts : holds .empty)
    (reached : pipeline.stateAt? clock cancelled sheet checkpoint = some state) :
    holds state.localization := by
  have stages : holds (pipeline.runStages clock sheet.name (.initial sheet cancelled)
      checkpoint.stage.before).1.localization :=
    localization_runStages clock sheet.name _ keeps starts
  unfold stateAt? at reached
  split at reached <;> rename_i ran
  · cases reached
  · rw [ran] at stages
    split at reached
    · cases reached
    · cases checkpoint with
      | beforeStage stage =>
          obtain rfl := Option.some.inj reached
          exact stages
      | beforeCall stage index =>
          obtain ⟨inner, called, rfl⟩ := Option.map_eq_some_iff.mp reached
          have kept := localization_stateBeforeCall? keeps stages called
          exact kept

/-- An invariant of the localization table holds wherever the run is cut short. -/
theorem localization_runAmid (course : RunCourse) (cancelled : Bool) (sheet : Sheet)
    (keeps : ∀ processor ∈ pipeline.data, processor.Keeps holds) (starts : holds .empty) :
    holds (pipeline.runAmid course cancelled sheet).state.localization := by
  rcases pipeline.runAmid_cases course cancelled sheet with ⟨_, state, reached, ends⟩ | calm
  · rw [ends]
    have kept := localization_stateAt? keeps starts reached
    exact kept
  · rw [calm]
    exact localization_run course.clock cancelled sheet keeps starts

end Pipeline

end Invariants

namespace Standard

variable {settings : StandardSettings}

/-! ## Standard runs -/

/-- The entries have keys of their own, none of which is reserved. -/
structure IsApart (reserved : List String) (table : LocalizationTable) : Prop where
  sound : table.IsSound
  unreserved : ∀ entry ∈ table.entries, entry.key ∉ reserved

theorem isApart_extract {reserved : List String} {table : LocalizationTable}
    (apart : IsApart reserved table) (rules : LocalizationRules) (schema : Schema)
    (sheet : Sheet) :
    IsApart reserved (rules.extract schema sheet (table.reserve reserved)).table := by
  obtain ⟨issued, moves⟩ := LocalizedTable.exists_moves_foldl_moveField rules
    (rules.detectedFields schema sheet) ⟨schema, sheet, table.reserve reserved, 0⟩
  refine ⟨(apart.sound.reserve reserved).issues moves.table, fun entry member taken => ?_⟩
  have listed := moves.table.entries ▸ member
  rcases List.mem_append.mp listed with former | added
  · exact apart.unreserved entry former taken
  · have free := moves.table.fresh entry added
    rw [Bool.eq_false_iff] at free
    exact free (LocalizationTable.contains_reserve.mpr (.inr taken))

theorem keeps_isApart (settings : StandardSettings) (options : RunOptions) :
    ∀ processor ∈ (Pipeline.standard options settings).data,
      processor.Keeps (IsApart settings.reserved) := by
  simp only [Pipeline.standard, List.forall_mem_cons]
  refine ⟨fun _ apart => apart, fun _ apart => apart, fun data apart => ?_, nofun⟩
  dsimp only [localization]
  split
  · exact apart
  · split
    · exact apart
    · exact isApart_extract apart _ _ _

/-- Every run, wherever it stops, issues keys of their own that are not reserved. -/
theorem isApart_runAmid (settings : StandardSettings) (options : RunOptions) (course : RunCourse)
    (cancelled : Bool) (sheet : Sheet) :
    IsApart settings.reserved
      ((Pipeline.standard options settings).runAmid course cancelled sheet).state.localization :=
  Pipeline.localization_runAmid course cancelled sheet (keeps_isApart settings options)
    ⟨LocalizationTable.isSound_empty, nofun⟩

/-- Every entry of a run that succeeds stands for a cell that reads its key. -/
theorem exists_marked_of_success {options : RunOptions} {clock : Clock} {cancelled : Bool}
    {sheet : Sheet}
    (succeeds : ((Pipeline.standard options settings).run clock cancelled sheet).success = true)
    {entry : LocalizationEntry}
    (member : entry ∈
      ((Pipeline.standard options settings).run clock cancelled sheet).state.localization.entries) :
    ∃ row column,
      ((Pipeline.standard options settings).run clock cancelled sheet).state.sheet.cell?
        row column = some (Localization.keyMark ++ entry.key) := by
  obtain ⟨resolved, diagnostics, moved, resolves, completes, clean, leaves⟩ :=
    exists_leaves_of_success succeeds
  rw [leaves.localization] at member
  rw [leaves.sheet]
  have outline := outline_normalized settings.known resolved (cleaned sheet)
  have names := ((failures_eq_nil_iff completes).mp clean).1
  rw [← Schema.fieldNames_eq_of_outline outline] at names
  have columns := Schema.columns_nodup resolves
  rw [← Field.map_eq_of_outline (fun _ => rfl) outline] at columns
  unfold processed localized at completes
  dsimp only at completes
  split at completes
  · cases read : LocalizationRules.ofSettings settings.localization with
    | error fault =>
        rw [read] at completes
        cases completes
    | ok rules =>
        rw [read] at completes
        obtain rfl := Except.ok.inj completes
        obtain ⟨issued, extracts⟩ := LocalizedTable.exists_extracts rules _
          (LocalizationTable.isSound_empty.reserve settings.reserved) names columns
        rw [extracts.entries] at member
        obtain ⟨text, listed, rfl⟩ := List.mem_map.mp member
        exact ⟨text.row, text.column, extracts.marked text listed⟩
  · obtain rfl := Except.ok.inj completes
    cases member

end Standard

end SheetCompiler

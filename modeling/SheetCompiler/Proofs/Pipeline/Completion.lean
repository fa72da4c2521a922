import SheetCompiler.Proofs.Pipeline.Standard

/-!
# Runs of the standard pipeline

A run without a budget stops at an incomplete header, at an invalid key pattern or
at a failed validation, and otherwise it completes. What it leaves behind is a
function of the sheet and the settings.
-/

set_option autoImplicit false

namespace SheetCompiler

namespace Standard

variable (settings : StandardSettings) (nameSpace : String) (stops : Bool) (clock : Clock)
  (table : String) {sheet : Sheet} {schema : Schema} {diagnostics : List Diagnostic}
  {moved : LocalizedTable}

section Stages

variable (state : RunState)

/-! ## Stages without a budget -/

theorem runStage_preProcess
    (resolves : Schema.ofSheet (cleaned sheet) nameSpace = .ok (schema, diagnostics)) :
    ∃ log started,
      (Pipeline.standard ⟨nameSpace, stops, none⟩ settings).runStage clock table
          (.initial sheet false) .preProcess =
        ({ RunState.initial (cleaned sheet) false with
            schema := some schema, diagnostics, log, started, timed := [.preProcess] }, .ok ()) ∧
      log.errors = [] := by
  obtain ⟨before, first, trims, clean⟩ :=
    RunState.preProcess_standard (.initial sheet false) rfl
  obtain ⟨log, started, names, errors⟩ := RunState.resolveSchema_ok
    { RunState.initial (cleaned sheet) false with log := before, started := first } table
    rfl resolves
  have work : (Pipeline.standard ⟨nameSpace, stops, none⟩ settings).workOf table
      (.initial sheet false) .preProcess = _ := Pipeline.workOf_preProcess table trims
  exact ⟨log, started, Pipeline.runStage_eq clock rfl rfl (work.trans names), errors.trans clean⟩

theorem runStage_preProcess_shortage {shortage : HeaderShortage}
    (fails : Schema.ofSheet (cleaned sheet) nameSpace = .error shortage) :
    ∃ log started,
      (Pipeline.standard ⟨nameSpace, stops, none⟩ settings).runStage clock table
          (.initial sheet false) .preProcess =
        ({ RunState.initial (cleaned sheet) false with log, started, timed := [.preProcess] },
          .error (.call .preProcess (.headerShortage shortage))) ∧
      log.errors = [] := by
  obtain ⟨before, first, trims, clean⟩ :=
    RunState.preProcess_standard (.initial sheet false) rfl
  obtain ⟨started, stopped⟩ := RunState.resolveSchema_error
    { RunState.initial (cleaned sheet) false with log := before, started := first } table
    rfl fails
  have work : (Pipeline.standard ⟨nameSpace, stops, none⟩ settings).workOf table
      (.initial sheet false) .preProcess = _ := Pipeline.workOf_preProcess table trims
  exact ⟨before, started, Pipeline.runStage_eq clock rfl rfl (work.trans stopped), clean⟩

theorem runStage_codeGeneration (going : state.cancelled = false)
    (resolved : state.schema = some schema) :
    ∃ log started timed,
      (Pipeline.standard ⟨nameSpace, stops, none⟩ settings).runStage clock table state
          .codeGeneration =
        ({ state with
            files := (CodeFile.ofSchema schema).foldl RunState.placeFile state.files
            log, started, timed, cancelled := false }, .ok ()) ∧
      log.errors = state.log.errors := by
  obtain ⟨log, started, generates, errors⟩ := RunState.generateCode_standard state going resolved
  have work : (Pipeline.standard ⟨nameSpace, stops, none⟩ settings).workOf table state
      .codeGeneration = _ := generates
  have ran := Pipeline.runStage_eq clock going rfl work
  exact ⟨log, started, _, ran, errors⟩

theorem runStage_dataProcess (going : state.cancelled = false)
    (resolved : state.schema = some schema) (fresh : state.localization = .empty)
    (completes : processed settings schema state.sheet = .ok moved) :
    ∃ log started timed,
      (Pipeline.standard ⟨nameSpace, stops, none⟩ settings).runStage clock table state
          .dataProcess =
        ({ state with
            schema := some moved.schema
            sheet := moved.sheet
            cellErrors := state.cellErrors ++ cellErrors schema state.sheet
            relations := state.relations ++ relations settings.known schema state.sheet
            localization := moved.table
            log, started, timed, cancelled := false }, .ok ()) ∧
      log.errors = state.log.errors := by
  obtain ⟨log, started, moves, errors⟩ :=
    RunState.processData_ok state going resolved fresh completes
  have work : (Pipeline.standard ⟨nameSpace, stops, none⟩ settings).workOf table state
      .dataProcess = _ := moves
  have ran := Pipeline.runStage_eq clock going rfl work
  exact ⟨log, started, _, ran, errors⟩

theorem runStage_dataProcess_error {fault : InvalidKeyPattern} (going : state.cancelled = false)
    (resolved : state.schema = some schema) (fresh : state.localization = .empty)
    (fails : processed settings schema state.sheet = .error fault) :
    ∃ log started timed,
      (Pipeline.standard ⟨nameSpace, stops, none⟩ settings).runStage clock table state
          .dataProcess =
        ({ state.normalized settings.known schema with log, started, timed, cancelled := false },
          .error (.call .dataProcess (.failed "localization" fault.fullMessage))) ∧
      log.errors = state.log.errors := by
  obtain ⟨log, started, stopped, errors⟩ :=
    RunState.processData_error state going resolved fresh fails
  have work : (Pipeline.standard ⟨nameSpace, stops, none⟩ settings).workOf table state
      .dataProcess = _ := stopped
  have ran := Pipeline.runStage_eq clock going rfl work
  exact ⟨log, started, _, ran, errors⟩

theorem runStage_validate (going : state.cancelled = false)
    (resolved : state.schema = some schema) :
    let input : ValidationInput := ⟨schema, state.sheet, state.cellErrors, state.relations⟩
    let found := collected stops (findings settings input)
    let failures := found.filter fun finding => finding.severity.isFailure
    ∃ log started timed,
      (Pipeline.standard ⟨nameSpace, stops, none⟩ settings).runStage clock table state .validate =
        ({ state with
            validation := .ofFindings found, log, started, timed, cancelled := false },
          if failures = [] then .ok () else .error (.validation failures.length)) ∧
      log.errors =
        state.log.errors ++ failures.map fun finding => s!"{table}: {finding.display}" := by
  intro input found failures
  obtain ⟨log, started, checks, errors⟩ := RunState.validate_standard state settings stops table
    going resolved
  have work : (Pipeline.standard ⟨nameSpace, stops, none⟩ settings).workOf table state
      .validate = _ := checks
  have ran := Pipeline.runStage_eq clock going rfl work
  exact ⟨log, started, _, ran, errors⟩

theorem runStage_postProcess (going : state.cancelled = false)
    (resolved : state.schema = some schema) :
    ∃ log started timed,
      (Pipeline.standard ⟨nameSpace, stops, none⟩ settings).runStage clock table state
          .postProcess =
        ({ state with
            payload := Wire.encode (RecordSet.ofSheet schema state.sheet)
            log, started, timed, cancelled := false }, .ok ()) ∧
      log.errors = state.log.errors := by
  obtain ⟨log, started, encodes, errors⟩ := RunState.postProcess_standard state going resolved
  have work : (Pipeline.standard ⟨nameSpace, stops, none⟩ settings).workOf table state
      .postProcess = _ := encodes
  have ran := Pipeline.runStage_eq clock going rfl work
  exact ⟨log, started, _, ran, errors⟩

end Stages

/-! ## Whole runs -/

theorem run_shortage_leaves {shortage : HeaderShortage}
    (fails : Schema.ofSheet (cleaned sheet) nameSpace = .error shortage) :
    ∃ log started timed,
      (Pipeline.standard ⟨nameSpace, stops, none⟩ settings).run clock false sheet =
        ⟨sheet.name, { RunState.initial (cleaned sheet) false with log, started, timed },
          some (.call .preProcess (.headerShortage shortage))⟩ ∧
      log.errors = [] := by
  obtain ⟨log, started, stopped, clean⟩ :=
    runStage_preProcess_shortage settings nameSpace stops clock sheet.name fails
  unfold Pipeline.run
  rw [Stage.all, Pipeline.runStages_cons_error stopped]
  exact ⟨log, started, _, rfl, clean⟩

theorem run_shortage {shortage : HeaderShortage}
    (fails : Schema.ofSheet (cleaned sheet) nameSpace = .error shortage) :
    ((Pipeline.standard ⟨nameSpace, stops, none⟩ settings).run clock false sheet).fault =
      some (.call .preProcess (.headerShortage shortage)) := by
  obtain ⟨_, _, _, stopped, -⟩ := run_shortage_leaves settings nameSpace stops clock fails
  rw [stopped]

/-- A run at the first of its processors of data, but for its log and its calls. -/
def resolvedRun (source : Sheet) (schema : Schema) (diagnostics : List Diagnostic) : RunState :=
  { RunState.initial source false with
    schema := some schema
    diagnostics
    files := (CodeFile.ofSchema schema).foldl RunState.placeFile [] }

/-- A run behind the last of them. -/
def processedRun (settings : StandardSettings) (source : Sheet) (schema : Schema)
    (diagnostics : List Diagnostic) (moved : LocalizedTable) : RunState :=
  { resolvedRun source schema diagnostics with
    schema := some moved.schema
    sheet := moved.sheet
    cellErrors := cellErrors schema source
    relations := relations settings.known schema source
    localization := moved.table }

/-- A resolved table always reaches the processors of data. -/
theorem runStages_resolved
    (resolves : Schema.ofSheet (cleaned sheet) nameSpace = .ok (schema, diagnostics)) :
    ∃ log started timed,
      (Pipeline.standard ⟨nameSpace, stops, none⟩ settings).runStages clock table
          (.initial sheet false) Stage.all =
        (Pipeline.standard ⟨nameSpace, stops, none⟩ settings).runStages clock table
          { resolvedRun (cleaned sheet) schema diagnostics with log, started, timed }
          [.dataProcess, .validate, .postProcess] ∧
      log.errors = [] := by
  obtain ⟨before, first, resolving, clean⟩ := runStage_preProcess settings nameSpace stops
    clock table resolves
  obtain ⟨log, started, timed, generating, errors⟩ := runStage_codeGeneration settings
    nameSpace stops clock table
    { RunState.initial (cleaned sheet) false with
      schema := some schema
      diagnostics
      log := before
      started := first
      timed := [.preProcess] } rfl rfl
  rw [Stage.all, Pipeline.runStages_cons_ok resolving, Pipeline.runStages_cons_ok generating]
  exact ⟨log, started, timed, rfl, errors.trans clean⟩

theorem run_invalidPattern_leaves {fault : InvalidKeyPattern}
    (resolves : Schema.ofSheet (cleaned sheet) nameSpace = .ok (schema, diagnostics))
    (fails : processed settings schema (cleaned sheet) = .error fault) :
    ∃ log started timed,
      (Pipeline.standard ⟨nameSpace, stops, none⟩ settings).run clock false sheet =
        ⟨sheet.name,
          { (resolvedRun (cleaned sheet) schema diagnostics).normalized settings.known schema with
            log, started, timed },
          some (.call .dataProcess (.failed "localization" fault.fullMessage))⟩ ∧
      log.errors = [] := by
  obtain ⟨log₁, started₁, timed₁, resolving, clean⟩ := runStages_resolved settings nameSpace
    stops clock sheet.name resolves
  obtain ⟨log, started, timed, stopped, errors⟩ := runStage_dataProcess_error settings nameSpace
    stops clock sheet.name
    { resolvedRun (cleaned sheet) schema diagnostics with
      log := log₁, started := started₁, timed := timed₁ } rfl rfl rfl fails
  unfold Pipeline.run
  rw [resolving, Pipeline.runStages_cons_error stopped]
  exact ⟨log, started, timed, rfl, errors.trans clean⟩

theorem run_invalidPattern {fault : InvalidKeyPattern}
    (resolves : Schema.ofSheet (cleaned sheet) nameSpace = .ok (schema, diagnostics))
    (fails : processed settings schema (cleaned sheet) = .error fault) :
    ((Pipeline.standard ⟨nameSpace, stops, none⟩ settings).run clock false sheet).fault =
      some (.call .dataProcess (.failed "localization" fault.fullMessage)) := by
  obtain ⟨_, _, _, stopped, -⟩ :=
    run_invalidPattern_leaves settings nameSpace stops clock resolves fails
  rw [stopped]

/-- What a run leaves behind of a resolved table that the processors of data complete.
Validation is the only stage that may still stop it. -/
structure Leaves (settings : StandardSettings) (stops : Bool) (resolved : Schema) (source : Sheet)
    (problems : List Diagnostic) (moved : LocalizedTable) (report : RunReport) : Prop where
  schema : report.state.schema = some moved.schema
  sheet : report.state.sheet = moved.sheet
  cancelled : report.state.cancelled = false
  diagnostics : report.state.diagnostics = problems
  files : report.state.files = (CodeFile.ofSchema resolved).foldl RunState.placeFile []
  cellErrors : report.state.cellErrors = Standard.cellErrors resolved source
  relations : report.state.relations = Standard.relations settings.known resolved source
  localization : report.state.localization = moved.table
  validation : report.state.validation = .ofFindings (found settings stops resolved source moved)
  errors : report.state.log.errors =
    (failures settings stops resolved source moved).map fun finding =>
      s!"{source.name}: {finding.display}"
  fault : report.fault =
    if failures settings stops resolved source moved = [] then none
    else some (.validation (failures settings stops resolved source moved).length)
  payload : failures settings stops resolved source moved = [] →
    report.state.payload = Wire.encode (RecordSet.ofSheet moved.schema moved.sheet)
  noPayload : failures settings stops resolved source moved ≠ [] → report.state.payload = []

theorem run_leaves
    (resolves : Schema.ofSheet (cleaned sheet) nameSpace = .ok (schema, diagnostics))
    (completes : processed settings schema (cleaned sheet) = .ok moved) :
    Leaves settings stops schema (cleaned sheet) diagnostics moved
      ((Pipeline.standard ⟨nameSpace, stops, none⟩ settings).run clock false sheet) := by
  obtain ⟨log₁, started₁, timed₁, resolving, clean₁⟩ :=
    runStages_resolved settings nameSpace stops clock sheet.name resolves
  obtain ⟨log₂, started₂, timed₂, processing, clean₂⟩ := runStage_dataProcess settings
    nameSpace stops clock sheet.name
    { resolvedRun (cleaned sheet) schema diagnostics with
      log := log₁, started := started₁, timed := timed₁ } rfl rfl rfl completes
  obtain ⟨log₃, started₃, timed₃, validating, errors₃⟩ := runStage_validate settings
    nameSpace stops clock sheet.name
    { processedRun settings (cleaned sheet) schema diagnostics moved with
      log := log₂, started := started₂, timed := timed₂ } rfl rfl
  have errors : log₃.errors =
      (failures settings stops schema (cleaned sheet) moved).map fun finding =>
        s!"{sheet.name}: {finding.display}" := by
    rw [errors₃]
    dsimp only
    rw [clean₂, clean₁]
    rfl
  change _ = (_, if failures settings stops schema (cleaned sheet) moved = [] then _ else
    Except.error (RunFault.validation
      (failures settings stops schema (cleaned sheet) moved).length)) at validating
  have arrives := resolving.trans (Pipeline.runStages_cons_ok processing)
  -- the payload is written only when validation lets the run go on
  by_cases clean : failures settings stops schema (cleaned sheet) moved = []
  · rw [if_pos clean] at validating
    obtain ⟨log₄, started₄, timed₄, encoding, errors₄⟩ := runStage_postProcess settings
      nameSpace stops clock sheet.name
      { processedRun settings (cleaned sheet) schema diagnostics moved with
        validation := .ofFindings (found settings stops schema (cleaned sheet) moved)
        log := log₃, started := started₃, timed := timed₃ } rfl rfl
    have completed := (arrives.trans (Pipeline.runStages_cons_ok validating)).trans
      (Pipeline.runStages_cons_ok encoding)
    unfold Pipeline.run
    rw [completed]
    exact ⟨rfl, rfl, rfl, rfl, rfl, rfl, rfl, rfl, rfl, errors₄.trans errors, (if_pos clean).symm,
      fun _ => rfl, fun failing => absurd clean failing⟩
  · rw [if_neg clean] at validating
    have stopped := arrives.trans (Pipeline.runStages_cons_error validating)
    unfold Pipeline.run
    rw [stopped]
    exact ⟨rfl, rfl, rfl, rfl, rfl, rfl, rfl, rfl, rfl, errors, (if_neg clean).symm,
      fun absurd => False.elim (clean absurd), fun _ => rfl⟩

end Standard

end SheetCompiler

import SheetCompiler.Pipeline.Standard
import SheetCompiler.Proofs.Pipeline.Run
import SheetCompiler.Proofs.Validation.Report

/-!
# Stages of the standard pipeline

What each stage of the standard pipeline does to the state of a run. Only the log
and the list of started calls are left open.
-/

set_option autoImplicit false

namespace SheetCompiler

namespace Standard

/-! ## Tables on their way -/

/-- A sheet without blanks around its cells and without blank data rows. -/
def cleaned (sheet : Sheet) : Sheet := sheet.trimCells.dropBlankRows

def linked (known : KnownTypes) (schema : Schema) (fields : List Field) : Schema :=
  { schema with fields := fields.map (markReference known) }

/-- A table before localization. -/
def normalized (known : KnownTypes) (schema : Schema) (sheet : Sheet) : Schema × Sheet :=
  let (fields, normal, _) := sheet.normalizeFields schema.fields
  (linked known schema fields, normal)

/-- A table after localization, where that is wanted. -/
def localized (settings : StandardSettings) (schema : Schema) (sheet : Sheet) :
    Except InvalidKeyPattern LocalizedTable :=
  if settings.localization.enabled then
    (LocalizationRules.ofSettings settings.localization).map fun rules =>
      rules.extract schema sheet (LocalizationTable.empty.reserve settings.reserved)
  else .ok ⟨schema, sheet, .empty, 0⟩

/-- A resolved table after all processors of data. -/
def processed (settings : StandardSettings) (schema : Schema) (sheet : Sheet) :
    Except InvalidKeyPattern LocalizedTable :=
  let (schema, sheet) := normalized settings.known schema sheet
  localized settings schema sheet

def cellErrors (schema : Schema) (sheet : Sheet) : List CellError :=
  (sheet.normalizeFields schema.fields).2.2

def relations (known : KnownTypes) (schema : Schema) (sheet : Sheet) : List Relation :=
  (normalized known schema sheet).1.relations

/-- What the validators see of a resolved table that has been processed. -/
def validated (known : KnownTypes) (schema : Schema) (sheet : Sheet) (moved : LocalizedTable) :
    ValidationInput :=
  ⟨moved.schema, moved.sheet, cellErrors schema sheet, relations known schema sheet⟩

/-- What each of the standard validators finds, in their order. -/
def findings (settings : StandardSettings) (input : ValidationInput) : List (List Finding) :=
  [schemaFindings input.schema, referenceFindings settings.known input.schema,
    input.cellErrors.map cellFinding, ruleFindings settings.rules input]

/-- The findings that are collected: all of them, or those up to the first validator
that reports a failure. -/
def collected (stops : Bool) : List (List Finding) → List Finding
  | [] => []
  | found :: rest =>
      if stops && found.any (fun finding => finding.severity.isFailure) then found
      else found ++ collected stops rest

def found (settings : StandardSettings) (stops : Bool) (schema : Schema) (sheet : Sheet)
    (moved : LocalizedTable) : List Finding :=
  collected stops (findings settings (validated settings.known schema sheet moved))

def failures (settings : StandardSettings) (stops : Bool) (schema : Schema) (sheet : Sheet)
    (moved : LocalizedTable) : List Finding :=
  (found settings stops schema sheet moved).filter fun finding => finding.severity.isFailure

/-- Stopping early cannot hide that there is a failure. -/
theorem collected_clean_iff {stops : Bool} {groups : List (List Finding)} :
    (∀ finding ∈ collected stops groups, finding.severity.isFailure = false) ↔
      ∀ group ∈ groups, ∀ finding ∈ group, finding.severity.isFailure = false := by
  induction groups with
  | nil => simp [collected]
  | cons group rest ih =>
      rw [List.forall_mem_cons]
      unfold collected
      split
      · rename_i failing
        obtain ⟨finding, member, failure⟩ :=
          List.any_eq_true.mp (Bool.and_eq_true_iff.mp failing).2
        constructor
        · intro clean
          rw [clean finding member] at failure
          cases failure
        · exact And.left
      · rw [List.forall_mem_append, ih]

end Standard

namespace RunState

variable (state : RunState) {schema : Schema}

/-! ## Stages -/

theorem preProcess_standard (going : state.cancelled = false) :
    ∃ log started,
      state.preProcess [Standard.trimCells] =
        ({ state with
            sheet := Standard.cleaned state.sheet, log, started, cancelled := false }, .ok ()) ∧
      log.errors = state.log.errors := by
  rw [preProcess, invoke_going going]
  refine ⟨_, _, rfl, ?_⟩
  dsimp only [Standard.trimCells, Call.complete]
  split <;> rfl

theorem resolveSchema_ok (table : String) {nameSpace : String} {diagnostics : List Diagnostic}
    (going : state.cancelled = false)
    (resolves : Schema.ofSheet state.sheet nameSpace = .ok (schema, diagnostics)) :
    ∃ log started,
      state.resolveSchema nameSpace table =
        ({ state with
            schema := some schema, diagnostics, log, started, cancelled := false }, .ok ()) ∧
      log.errors = state.log.errors := by
  unfold resolveSchema
  dsimp only
  rw [resolves, invoke_going going]
  exact ⟨_, _, rfl, rfl⟩

theorem resolveSchema_error (table : String) {nameSpace : String} {shortage : HeaderShortage}
    (going : state.cancelled = false)
    (fails : Schema.ofSheet state.sheet nameSpace = .error shortage) :
    ∃ started,
      state.resolveSchema nameSpace table =
        ({ state with started, cancelled := false },
          .error (.call .preProcess (.headerShortage shortage))) := by
  unfold resolveSchema
  dsimp only
  rw [fails, invoke_going going]
  exact ⟨_, rfl⟩

/-- Generated files are put in the place of earlier ones of the same path. -/
def placeFile (files : List CodeFile) (file : CodeFile) : List CodeFile :=
  files.filter (fun other => other.path != file.path) ++ [file]

theorem foldl_addFile (files : List CodeFile) :
    ∃ log,
      files.foldl addFile state = { state with files := files.foldl placeFile state.files, log } ∧
      log.errors = state.log.errors := by
  induction files generalizing state with
  | nil => exact ⟨state.log, rfl, rfl⟩
  | cons file files ih =>
      obtain ⟨log, same, errors⟩ := ih (state.addFile file)
      exact ⟨log, same, errors⟩

theorem generateCode_standard (going : state.cancelled = false)
    (resolved : state.schema = some schema) :
    ∃ log started,
      state.generateCode [Standard.codeGenerator] =
        ({ state with
            files := (CodeFile.ofSchema schema).foldl placeFile state.files, log, started,
            cancelled := false }, .ok ()) ∧
      log.errors = state.log.errors := by
  rw [generateCode, resolved]
  dsimp only
  rw [invoke_going going]
  dsimp only [Standard.codeGenerator, Call.complete]
  obtain ⟨log, placed, errors⟩ := foldl_addFile
    { state with
      log := state.log.append
        (if (CodeFile.ofSchema schema).isEmpty then
          RunLog.empty.warn s!"Table '{schema.name}' has no generated fields" else .empty)
      started := state.started ++ [(.codeGeneration, "rust-codegen")]
      cancelled := false } (CodeFile.ofSchema schema)
  rw [generateCode, placed]
  dsimp only
  rw [resolved]
  refine ⟨_, _, rfl, ?_⟩
  rw [errors]
  split <;> simp [RunLog.append, RunLog.warn, RunLog.empty]

/-- A processor of data that completes stores all that it was given. -/
theorem processData_cons (processor : DataProcessor) (processors : List DataProcessor)
    {after : DataState} (going : state.cancelled = false) (resolved : state.schema = some schema)
    (completes :
      processor.call ()
        ⟨schema, state.sheet, state.cellErrors, state.relations, state.localization, state.log⟩ =
        .complete after ()) :
    state.processData (processor :: processors) =
      processData
        { state with
          schema := some after.schema
          sheet := after.sheet
          cellErrors := after.cellErrors
          relations := after.relations
          localization := after.localization
          log := after.log
          started := state.started ++ [(.dataProcess, processor.name)]
          cancelled := false } processors := by
  rw [processData, resolved]
  dsimp only
  rw [invoke_going going, completes]
  rfl

def normalized (state : RunState) (known : KnownTypes) (schema : Schema) : RunState :=
  { state with
    schema := some (Standard.normalized known schema state.sheet).1
    sheet := (Standard.normalized known schema state.sheet).2
    cellErrors := state.cellErrors ++ Standard.cellErrors schema state.sheet
    relations := state.relations ++ Standard.relations known schema state.sheet }

/-- The first two processors of data always complete. -/
theorem processData_normalized (settings : StandardSettings) (processors : List DataProcessor)
    (going : state.cancelled = false) (resolved : state.schema = some schema) :
    ∃ log started,
      state.processData
        (Standard.structuredValues :: Standard.references settings.known :: processors) =
        processData
          { state.normalized settings.known schema with log, started, cancelled := false }
          processors ∧
      log.errors = state.log.errors := by
  rw [processData_cons state _ _ going resolved rfl, processData_cons _ _ _ rfl rfl rfl]
  refine ⟨_, _, rfl, ?_⟩
  dsimp only
  split <;> rfl

/-- The last processor of data stops a run only at a key pattern that is not valid. -/
theorem processData_localization (settings : StandardSettings) (going : state.cancelled = false)
    (resolved : state.schema = some schema) (fresh : state.localization = .empty) :
    ∃ log started,
      state.processData [Standard.localization settings.localization settings.reserved] =
        (match Standard.localized settings schema state.sheet with
        | .ok moved =>
            ({ state with
                schema := some moved.schema
                sheet := moved.sheet
                localization := moved.table
                log, started, cancelled := false }, .ok ())
        | .error fault =>
            ({ state with log, started, cancelled := false },
              .error (.call .dataProcess (.failed "localization" fault.fullMessage)))) ∧
      log.errors = state.log.errors := by
  unfold Standard.localized
  cases wanted : settings.localization.enabled with
  | false =>
      have idle := processData_cons state
        (Standard.localization settings.localization settings.reserved) [] going resolved
        (by simp only [Standard.localization, wanted]; rfl)
      rw [idle, fresh]
      exact ⟨_, _, rfl, rfl⟩
  | true =>
      cases read : LocalizationRules.ofSettings settings.localization with
      | ok rules =>
          have busy := processData_cons state
            (Standard.localization settings.localization settings.reserved) [] going resolved
            (by simp only [Standard.localization, wanted, read]; rfl)
          rw [busy, fresh]
          refine ⟨_, _, rfl, ?_⟩
          dsimp only
          split <;> rfl
      | error fault =>
          rw [processData, resolved]
          dsimp only
          rw [invoke_going going]
          simp only [Standard.localization, wanted, read]
          exact ⟨_, _, rfl, rfl⟩

theorem processData_ok {settings : StandardSettings} {moved : LocalizedTable}
    (going : state.cancelled = false) (resolved : state.schema = some schema)
    (fresh : state.localization = .empty)
    (completes : Standard.processed settings schema state.sheet = .ok moved) :
    ∃ log started,
      state.processData (Pipeline.standard .standard settings).data =
        ({ state with
            schema := some moved.schema
            sheet := moved.sheet
            cellErrors := state.cellErrors ++ Standard.cellErrors schema state.sheet
            relations := state.relations ++ Standard.relations settings.known schema state.sheet
            localization := moved.table
            log, started, cancelled := false }, .ok ()) ∧
      log.errors = state.log.errors := by
  obtain ⟨middle, before, normal, errors⟩ := processData_normalized state settings
    [Standard.localization settings.localization settings.reserved] going resolved
  obtain ⟨log, started, moves, later⟩ := processData_localization
    { state.normalized settings.known schema with
      log := middle, started := before, cancelled := false } settings rfl rfl fresh
  rw [Standard.processed] at completes
  dsimp only [RunState.normalized] at completes moves
  rw [completes] at moves
  exact ⟨log, started, normal.trans moves, later.trans errors⟩

theorem processData_error {settings : StandardSettings} {fault : InvalidKeyPattern}
    (going : state.cancelled = false) (resolved : state.schema = some schema)
    (fresh : state.localization = .empty)
    (fails : Standard.processed settings schema state.sheet = .error fault) :
    ∃ log started,
      state.processData (Pipeline.standard .standard settings).data =
        ({ state.normalized settings.known schema with log, started, cancelled := false },
          .error (.call .dataProcess (.failed "localization" fault.fullMessage))) ∧
      log.errors = state.log.errors := by
  obtain ⟨middle, before, normal, errors⟩ := processData_normalized state settings
    [Standard.localization settings.localization settings.reserved] going resolved
  obtain ⟨log, started, stops, later⟩ := processData_localization
    { state.normalized settings.known schema with
      log := middle, started := before, cancelled := false } settings rfl rfl fresh
  rw [Standard.processed] at fails
  dsimp only [RunState.normalized] at fails stops
  rw [fails] at stops
  exact ⟨log, started, normal.trans stops, later.trans errors⟩

/-- The validators of the given findings, called one after the other, add the findings that
are collected. -/
theorem callValidators_validator (stops : Bool) (report : ValidationReport)
    (checks : List (String × Int × (ValidationInput → List Finding)))
    (going : state.cancelled = false) (resolved : state.schema = some schema) :
    ∃ started,
      state.callValidators stops report
        (checks.map fun (name, priority, findings) =>
          Standard.validator name priority findings) =
        ({ state with started, cancelled := false },
          .ok (report.pushAll (Standard.collected stops
            (checks.map fun (_, _, findings) =>
              findings ⟨schema, state.sheet, state.cellErrors, state.relations⟩)))) := by
  induction checks generalizing state report with
  | nil =>
      refine ⟨state.started, ?_⟩
      rw [← going]
      rfl
  | cons check checks ih =>
      obtain ⟨name, priority, findings⟩ := check
      rw [List.map_cons, List.map_cons, callValidators, resolved]
      dsimp only
      rw [invoke_going going]
      dsimp only [Standard.validator, Call.complete]
      rw [resolved, ValidationReport.merge, ValidationReport.findings_ofFindings,
        ValidationReport.isValid_ofFindings, Bool.not_not, Bool.and_comm]
      unfold Standard.collected
      split
      · exact ⟨_, rfl⟩
      · obtain ⟨started, called⟩ := ih
          { state with
            started := state.started ++ [(.validate, name)]
            cancelled := false } _ rfl resolved
        rw [ValidationReport.pushAll_append]
        simp only [resolved] at called ⊢
        exact ⟨started, called⟩

theorem errors_foldl_logFinding {table : String} (findings : List Finding) (log : RunLog) :
    (findings.foldl (fun log finding => logFinding log table finding) log).errors =
      log.errors ++
        (findings.filter fun finding => finding.severity.isFailure).map fun finding =>
          s!"{table}: {finding.display}" := by
  induction findings generalizing log with
  | nil => simp
  | cons finding findings ih =>
      rw [List.foldl_cons, ih, List.filter_cons, logFinding]
      split <;> simp [RunLog.error, RunLog.warn]

theorem warnings_foldl_logFinding {table : String} (findings : List Finding) (log : RunLog) :
    (findings.foldl (fun log finding => logFinding log table finding) log).warnings =
      log.warnings ++
        (findings.filter fun finding => !finding.severity.isFailure).map fun finding =>
          s!"{table}: {finding.display}" := by
  induction findings generalizing log with
  | nil => simp
  | cons finding findings ih =>
      rw [List.foldl_cons, ih, List.filter_cons, logFinding]
      cases finding.severity.isFailure <;> simp [RunLog.error, RunLog.warn]

/-- The standard validators fail a table when one of them finds a failure, even where they
stop early. -/
theorem validate_standard (settings : StandardSettings) (stops : Bool) (table : String)
    (going : state.cancelled = false) (resolved : state.schema = some schema) :
    let input : ValidationInput := ⟨schema, state.sheet, state.cellErrors, state.relations⟩
    let found := Standard.collected stops (Standard.findings settings input)
    let failures := found.filter fun finding => finding.severity.isFailure
    ∃ log started,
      state.validate stops table (Pipeline.standard .standard settings).validators =
        ({ state with
            validation := .ofFindings found, log, started, cancelled := false },
          if failures = [] then .ok () else .error (.validation failures.length)) ∧
      log.errors =
        state.log.errors ++ failures.map fun finding => s!"{table}: {finding.display}" := by
  intro input found failures
  obtain ⟨started, called⟩ := callValidators_validator state stops .empty
    [("schema", 0, fun input => Standard.schemaFindings input.schema),
      ("reference-types", 10, fun input => Standard.referenceFindings settings.known input.schema),
      ("cell-values", 20, fun input => input.cellErrors.map Standard.cellFinding),
      ("rules", 30, Standard.ruleFindings settings.rules)] going resolved
  change state.callValidators stops .empty (Pipeline.standard .standard settings).validators =
    ({ state with started, cancelled := false }, .ok (.ofFindings found)) at called
  have counted : (ValidationReport.ofFindings found).failureCount = failures.length := by
    rw [ValidationReport.ofFindings, ValidationReport.failureCount_pushAll,
      ValidationReport.failureCount_empty, Nat.zero_add, List.countP_eq_length_filter]
  have emptiness : failures.length = 0 ↔ failures = [] := List.length_eq_zero_iff
  refine ⟨_, started, ?_, errors_foldl_logFinding found state.log⟩
  rw [validate, called]
  dsimp only
  rw [counted, ValidationReport.findings_ofFindings]
  by_cases clean : failures = []
  · rw [if_pos clean, if_pos (emptiness.mpr clean)]
  · rw [if_neg clean, if_neg (mt emptiness.mp clean)]

theorem postProcess_standard (going : state.cancelled = false)
    (resolved : state.schema = some schema) :
    ∃ log started,
      state.postProcess [Standard.payload] =
        ({ state with
            payload := Wire.encode (RecordSet.ofSheet schema state.sheet)
            log, started, cancelled := false }, .ok ()) ∧
      log.errors = state.log.errors := by
  rw [postProcess, resolved]
  dsimp only
  rw [invoke_going going]
  dsimp only [Standard.payload, Call.complete]
  rw [postProcess, resolved]
  exact ⟨_, _, rfl, rfl⟩

end RunState

end SheetCompiler

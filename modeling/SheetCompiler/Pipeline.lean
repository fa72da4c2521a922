import SheetCompiler.Pipeline.Processor
import SheetCompiler.Record.Wire
import SheetCompiler.Settings

/-!
# Pipelines

The run of one table through the five stages. The stages follow each other in
their order, and in a stage its processors do. The run stops at the first call
that does not complete, and where it is cancelled, where validation finds a
failure, or where a stage takes longer than its budget.
-/

set_option autoImplicit false

namespace SheetCompiler

/-- The budget of a stage is a time that it may not exceed. -/
structure RunOptions where
  nameSpace : String
  stopsAtFailure : Bool
  stageBudget : Option Elapsed
  deriving DecidableEq, Repr

def RunOptions.standard : RunOptions := ⟨"", false, none⟩

/-- The processors of each stage in the order in which they run. -/
structure Pipeline where
  options : RunOptions
  pre : List PreProcessor
  generators : List CodeGenerator
  data : List DataProcessor
  validators : List Validator
  post : List PostProcessor

/-- The state of a run. `started` lists the calls of processors that have started,
and `timed` the stages that have ended, whether they completed or not. -/
structure RunState where
  sheet : Sheet
  schema : Option Schema
  diagnostics : List Diagnostic
  log : RunLog
  files : List CodeFile
  cellErrors : List CellError
  relations : List Relation
  localization : LocalizationTable
  validation : ValidationReport
  payload : List UInt8
  cancelled : Bool
  started : List (Stage × String)
  timed : List Stage
  deriving DecidableEq, Repr

namespace RunState

def initial (sheet : Sheet) (cancelled : Bool) : RunState :=
  { sheet
    schema := none
    diagnostics := []
    log := .empty
    files := []
    cellErrors := []
    relations := []
    localization := .empty
    validation := .empty
    payload := []
    cancelled
    started := []
    timed := [] }

def note (state : RunState) (message : String) : RunState :=
  { state with log := state.log.note message }

/-- Calls a processor on a part of the state, unless the run is cancelled. -/
def invoke {σ α : Type} (stage : Stage) (name : String) (state : RunState)
    (call : Unit → Call σ α) (store : σ → RunState → RunState) :
    RunState × Except RunFault α :=
  if state.cancelled then (state, .error (.cancelled stage))
  else
    let call := call ()
    let after := store call.state { state with started := state.started ++ [(stage, name)] }
    let after := { after with cancelled := call.cancels }
    match call.ending with
    | .done answer => (after, .ok answer)
    | .failed fault => (after, .error (.call stage fault))
    | .crashed crash => (after, .error (.call stage (.crashed name crash)))

/-- The fault of a stage that needs a schema when there is none. -/
def missingSchema (stage : Stage) : RunFault :=
  .call stage (.failed "orchestrator" "schema has not been resolved")

/-! ## Stages -/

/-- Calls the processors of the raw sheet. -/
def preProcess (state : RunState) : List PreProcessor → RunState × Except RunFault Unit
  | [] => (state, .ok ())
  | processor :: processors =>
      let called := state.invoke .preProcess processor.name
        (fun _ => processor.call () ⟨state.sheet, state.log⟩)
        (fun raw state => { state with sheet := raw.sheet, log := raw.log })
      match called with
      | (state, .ok ()) => state.preProcess processors
      | (state, .error fault) => (state, .error fault)

/-- Resolves the schema of the sheet. -/
def resolveSchema (nameSpace table : String) (state : RunState) :
    RunState × Except RunFault Unit :=
  let resolve (_ : Unit) : Call Unit (Schema × List Diagnostic) :=
    match Schema.ofSheet state.sheet nameSpace with
    | .ok resolved => ⟨(), false, .done resolved⟩
    | .error shortage => ⟨(), false, .failed (.headerShortage shortage)⟩
  match state.invoke .preProcess "schema-resolver" resolve (fun _ state => state) with
  | (state, .error fault) => (state, .error fault)
  | (state, .ok (schema, diagnostics)) =>
      let warnings := diagnostics.map fun diagnostic =>
        s!"{table}: {diagnostic.display}"
      let log := { state.log with warnings := state.log.warnings ++ warnings }
      let count := Value.displayNat schema.fields.length
      let log := log.note s!"Resolved {count} field(s) for '{table}'"
      ({ state with schema := some schema, diagnostics, log }, .ok ())

/-- Puts a file in the place of an earlier one of the same path. -/
def addFile (state : RunState) (file : CodeFile) : RunState :=
  let files := state.files.filter (fun other => other.path != file.path) ++ [file]
  { state.note s!"Generated {file.path}" with files }

def generateCode (state : RunState) : List CodeGenerator → RunState × Except RunFault Unit
  | [] => (state, .ok ())
  | generator :: generators =>
      match state.schema with
      | none => (state, .error (missingSchema .codeGeneration))
      | some schema =>
          let call := fun _ => generator.call schema .empty
          let complete (call : Call RunLog (List CodeFile)) :
              Call RunLog (List CodeFile × RunLog) :=
            match call.ending with
            | .done files => ⟨call.state, call.cancels, .done (files, call.state)⟩
            | .failed fault => ⟨call.state, call.cancels, .failed fault⟩
            | .crashed crash => ⟨call.state, call.cancels, .crashed crash⟩
          match state.invoke .codeGeneration generator.name (fun _ => complete (call ()))
              (fun _ state => state) with
          | (state, .ok (files, log)) =>
              let logged := { state with log := state.log.append log }
              generateCode (files.foldl addFile logged) generators
          | (state, .error fault) => (state, .error fault)

def processData (state : RunState) : List DataProcessor → RunState × Except RunFault Unit
  | [] => (state, .ok ())
  | processor :: processors =>
      match state.schema with
      | none => (state, .error (missingSchema .dataProcess))
      | some schema =>
          let data : DataState :=
            { schema
              sheet := state.sheet
              cellErrors := state.cellErrors
              relations := state.relations
              localization := state.localization
              log := state.log }
          let store (data : DataState) (state : RunState) : RunState :=
            { state with
              schema := some data.schema
              sheet := data.sheet
              cellErrors := data.cellErrors
              relations := data.relations
              localization := data.localization
              log := data.log }
          match state.invoke .dataProcess processor.name
              (fun _ => processor.call () data) store with
          | (state, .ok ()) => processData state processors
          | (state, .error fault) => (state, .error fault)

/-- Calls validators and collects their findings. Where wanted, the validators after
the first one that reports a failure are left out. -/
def callValidators (stops : Bool) (report : ValidationReport) (state : RunState) :
    List Validator → RunState × Except RunFault ValidationReport
  | [] => (state, .ok report)
  | validator :: validators =>
      match state.schema with
      | none => (state, .error (missingSchema .validate))
      | some schema =>
          let input : ValidationInput :=
            ⟨schema, state.sheet, state.cellErrors, state.relations⟩
          match state.invoke .validate validator.name (fun _ => validator.call input ())
              (fun _ state => state) with
          | (state, .ok found) =>
              let merged := report.merge found
              if !found.isValid && stops then (state, .ok merged)
              else callValidators stops merged state validators
          | (state, .error fault) => (state, .error fault)

/-- Writes a finding to the log, as an error or as a warning. -/
def logFinding (log : RunLog) (table : String) (finding : Finding) : RunLog :=
  let line := s!"{table}: {finding.display}"
  if finding.severity.isFailure then log.error line else log.warn line

/-- Validates the table. No finding is kept when a validator does not complete. -/
def validate (stops : Bool) (table : String) (state : RunState) (validators : List Validator) :
    RunState × Except RunFault Unit :=
  match callValidators stops .empty state validators with
  | (state, .error fault) => (state, .error fault)
  | (state, .ok report) =>
      let log := report.findings.foldl (fun log finding => logFinding log table finding) state.log
      let state := { state with log, validation := report }
      if report.failureCount = 0 then (state, .ok ())
      else (state, .error (.validation report.failureCount))

def postProcess (state : RunState) : List PostProcessor → RunState × Except RunFault Unit
  | [] => (state, .ok ())
  | processor :: processors =>
      match state.schema with
      | none => (state, .error (missingSchema .postProcess))
      | some schema =>
          let input : PostInput := ⟨schema, state.sheet, state.validation⟩
          let store (post : PostState) (state : RunState) : RunState :=
            { state with payload := post.payload, log := post.log }
          match state.invoke .postProcess processor.name
              (fun _ => processor.call input ⟨state.payload, state.log⟩) store with
          | (state, .ok ()) => postProcess state processors
          | (state, .error fault) => (state, .error fault)

end RunState

/-- How long the stages of a run take. -/
abbrev Clock := Stage → Elapsed

/-- A clock on which every stage takes the least time that there is. -/
def Clock.least : Clock := fun _ => ⟨1⟩

namespace Pipeline

def ofOptions (options : RunOptions) : Pipeline := ⟨options, [], [], [], [], []⟩

def addPreProcessor (pipeline : Pipeline) (processor : PreProcessor) : Pipeline :=
  { pipeline with pre := processor.insert pipeline.pre }

def addCodeGenerator (pipeline : Pipeline) (processor : CodeGenerator) : Pipeline :=
  { pipeline with generators := processor.insert pipeline.generators }

def addDataProcessor (pipeline : Pipeline) (processor : DataProcessor) : Pipeline :=
  { pipeline with data := processor.insert pipeline.data }

def addValidator (pipeline : Pipeline) (processor : Validator) : Pipeline :=
  { pipeline with validators := processor.insert pipeline.validators }

def addPostProcessor (pipeline : Pipeline) (processor : PostProcessor) : Pipeline :=
  { pipeline with post := processor.insert pipeline.post }

/-- The names of the processors of a stage in the order in which they run. -/
def processorNames (pipeline : Pipeline) : Stage → List String
  | .preProcess => pipeline.pre.map (·.name)
  | .codeGeneration => pipeline.generators.map (·.name)
  | .dataProcess => pipeline.data.map (·.name)
  | .validate => pipeline.validators.map (·.name)
  | .postProcess => pipeline.post.map (·.name)

/-- The processors of one stage at work. The schema is resolved at the end of the
first stage. -/
def workOf (pipeline : Pipeline) (table : String) (state : RunState) :
    Stage → RunState × Except RunFault Unit
  | .preProcess =>
      match state.preProcess pipeline.pre with
      | (state, .ok ()) => state.resolveSchema pipeline.options.nameSpace table
      | (state, .error fault) => (state, .error fault)
  | .codeGeneration => state.generateCode pipeline.generators
  | .dataProcess => state.processData pipeline.data
  | .validate => state.validate pipeline.options.stopsAtFailure table pipeline.validators
  | .postProcess => state.postProcess pipeline.post

/-- Runs one stage, unless the run is cancelled. -/
def runStage (pipeline : Pipeline) (clock : Clock) (table : String) (state : RunState)
    (stage : Stage) : RunState × Except RunFault Unit :=
  if state.cancelled then (state, .error (.cancelled stage))
  else
    let (state, outcome) := pipeline.workOf table state stage
    let state := { state with timed := state.timed ++ [stage] }
    match outcome, pipeline.options.stageBudget with
    | .error fault, _ => (state, .error fault)
    | .ok (), none => (state, .ok ())
    | .ok (), some budget =>
        let elapsed := clock stage
        if budget.nanoseconds < elapsed.nanoseconds then
          (state, .error (.overBudget stage elapsed budget))
        else (state, .ok ())

/-- Runs stages up to the first one that does not complete. -/
def runStages (pipeline : Pipeline) (clock : Clock) (table : String) (state : RunState) :
    List Stage → RunState × Except RunFault Unit
  | [] => (state, .ok ())
  | stage :: stages =>
      match pipeline.runStage clock table state stage with
      | (state, .ok ()) => runStages pipeline clock table state stages
      | (state, .error fault) => (state, .error fault)

end Pipeline

/-- What a run leaves behind. -/
structure RunReport where
  table : String
  state : RunState
  fault : Option RunFault
  deriving DecidableEq, Repr

namespace RunReport

/-- The errors of the log, and at the end the fault that stopped the run. -/
def errors (report : RunReport) : List String :=
  report.state.log.errors ++ (report.fault.map RunFault.message).toList

/-- A run succeeds when nothing stopped it and nothing has written an error. -/
def success (report : RunReport) : Bool := report.fault.isNone && report.errors.isEmpty

def failedStage (report : RunReport) : Option Stage := report.fault.map RunFault.stage

/-- The digest of the payload, where there is one. -/
def payloadDigest (report : RunReport) : Option String :=
  if report.state.payload.isEmpty then none else some (Wire.digestText report.state.payload)

end RunReport

/-- Runs a sheet through all stages. The run may be cancelled from the start. -/
def Pipeline.run (pipeline : Pipeline) (clock : Clock) (cancelled : Bool) (sheet : Sheet) :
    RunReport :=
  let (state, outcome) :=
    pipeline.runStages clock sheet.name (.initial sheet cancelled) Stage.all
  match outcome with
  | .ok () => ⟨sheet.name, state, none⟩
  | .error fault => ⟨sheet.name, state, some fault⟩

end SheetCompiler

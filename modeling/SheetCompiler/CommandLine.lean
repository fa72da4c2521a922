import SheetCompiler.Batch
import SheetCompiler.CommandLine.Command
import SheetCompiler.Files.Output
import SheetCompiler.KnownTypes.Discovery
import SheetCompiler.Schema.Listing
import SheetCompiler.Schema.Storage
import SheetCompiler.Settings.Decoding

/-!
# Command line

Running the commands of the program. A command reads its tables, compiles them or
shows a schema, and leaves files behind; what it writes before it fails stays.
-/

set_option autoImplicit false

namespace SheetCompiler

/-! ## Artifacts -/

namespace RunReport

/-- The files of a run: the payload, the generated code, and the schema if it is
wanted. -/
def artifacts (output : Path) (withSchema : Bool) (report : RunReport) : List Artifact :=
  let payload : Artifact := ⟨output.join (report.table ++ ".bin"), report.state.payload⟩
  let code := report.state.files.map fun file =>
    Artifact.ofText (output.join file.path) file.contents
  let schema :=
    match report.state.schema with
    | some schema =>
        if withSchema then
          [Artifact.ofText (output.join (report.table ++ ".schema.json")) schema.toJson]
        else []
    | none => []
  payload :: (code ++ schema)

end RunReport

namespace BatchReport

def localizationFile : String := "localization.csv"

/-- The files of the successful runs one after the other, and then the localized
texts, if there are any. -/
def artifacts (output : Path) (withSchemas : Bool) (report : BatchReport) : List Artifact :=
  let tables := report.successes.flatMap (RunReport.artifacts output withSchemas)
  let texts := report.localization
  if texts.isEmpty then tables
  else tables ++ [Artifact.ofText (output.join localizationFile) texts.toDelimited]

end BatchReport

namespace CommandLine

/-! ## Failures -/

/-- Why a command fails. -/
inductive Failure where
  | unopenedSettings (path : Path) (cause : FileFault)
  | unreadSettings (path : Path) (cause : FileFault)
  | malformedSettings (path : Path)
  | unknownEncoding (cause : Encoding.UnknownLabel)
  | input (cause : TableFile.InputFault)
  | noTables
  | load (cause : TableFile.LoadFault)
  | knownTypes (cause : KnownTypes.DiscoveryFault)
  | rules (cause : TableRulesFault)
  | output (cause : OutputFault)
  | tables (failed : List String) (cycleCount : Nat)
  | schema (path : Path) (cause : HeaderShortage)
  deriving DecidableEq, Repr

def Failure.message : Failure → String
  | unopenedSettings path cause =>
      s!"Loading configuration from {path.quoted}: Opening config file {path.quoted}: " ++
        cause.message
  | unreadSettings path cause =>
      s!"Loading configuration from {path.quoted}: Parsing config YAML {path.quoted}: " ++
        cause.message
  | malformedSettings path =>
      s!"Loading configuration from {path.quoted}: Parsing config YAML {path.quoted}"
  | unknownEncoding cause => cause.message
  | input cause => cause.message
  | noTables => "No table files found in the given inputs"
  | load cause => cause.message
  | knownTypes cause => s!"Discovering known types in {cause.directory.quoted}: {cause.message}"
  | rules cause => cause.fullMessage
  | output cause => cause.message
  | tables failed cycleCount =>
      let names := Text.joined ", " failed
      s!"Compilation failed: {failed.length} table(s) failed ({names}), " ++
        s!"{cycleCount} circular reference error(s)"
  | schema path cause => s!"Resolving schema of {path.quoted}: {cause.message}"

/-! ## Commands -/

section

variable {m : Type → Type} [Monad m] [Files m]

/-- Goes on with the result of an action, or fails for its cause. -/
def attempt {ε α : Type} (failure : ε → Failure) (action : m (Except ε α)) :
    ExceptT Failure m α :=
  ExceptT.mk (return (← action).mapError failure)

/-- The settings of a file, or the standard ones. -/
def settingsOf : Option Path → ExceptT Failure m Settings
  | none => return .standard
  | some path => do
      let failure (cause : FileFault) : Failure :=
        if cause = .isDirectory then .unreadSettings path cause else .unopenedSettings path cause
      match Settings.ofFile? (← attempt failure (Files.read path)) with
      | some settings => return settings
      | none => throw (.malformedSettings path)

def encodingOf (label : Option String) : ExceptT Failure m Encoding :=
  ExceptT.mk (return (Encoding.ofOptionalLabel label).mapError .unknownEncoding)

/-- The types that references may target besides those of the settings. -/
def knownTypesOf (options : CompileOptions) : ExceptT Failure m KnownTypes := do
  let known ←
    match options.typesDirectory with
    | some directory => attempt .knownTypes (KnownTypes.discover directory)
    | none => pure .standard
  return known.insertAll options.types

/-- The sheets of table files. -/
def sheetsOf (encoding : Encoding) : List Path → ExceptT Failure m (List Sheet)
  | [] => return []
  | path :: paths => do
      let sheet ← attempt .load (TableFile.load encoding path)
      return sheet :: (← sheetsOf encoding paths)

/-- Compiles the tables of the inputs. -/
def batch (clocks : Clocks) (options : CompileOptions) : ExceptT Failure m BatchReport := do
  let settings ← settingsOf options.settings
  let encoding ← encodingOf options.encoding
  let paths ← attempt .input (TableFile.ofInputs options.inputs)
  if paths.isEmpty then throw .noTables
  let sheets ← sheetsOf encoding paths
  let compiler := Compiler.ofSettings settings (← knownTypesOf options)
  match compiler.compileAll (.calm clocks) false sheets with
  | .error fault => throw (.rules fault)
  | .ok report => return report

/-- Compiles tables and writes the files of those that succeed. -/
def compile (clocks : Clocks) (options : CompileOptions) : ExceptT Failure m Unit := do
  let report ← batch clocks options
  attempt .output (Artifact.writeAll (report.artifacts options.output options.writesSchemas))
  if !(report.failedTables.isEmpty && report.cycleErrors.isEmpty) then
    throw (.tables report.failedTables report.cycleErrors.length)

/-- The schema of a table as text. -/
def inspect (options : InspectOptions) : ExceptT Failure m String := do
  let encoding ← encodingOf options.encoding
  let sheet ← attempt .load (TableFile.load encoding options.input)
  match Schema.ofSheet sheet options.nameSpace with
  | .error fault => throw (.schema options.input fault)
  | .ok (schema, _) => return if options.asJson then schema.toJson ++ "\n" else schema.listing

/-! ## Programs -/

/-- What a run of the program shows for it. -/
structure Outcome where
  exitCode : Nat
  output : String
  error : Option String
  deriving DecidableEq, Repr

def Outcome.ofResult : Except Failure String → Outcome
  | .ok output => ⟨0, output, none⟩
  | .error failure => ⟨1, "", some failure.message⟩

def runCommand (clocks : Clocks) : Command → m (Except Failure String)
  | .compile options => (do compile clocks options; return "" : ExceptT Failure m String).run
  | .inspect options => (inspect options).run

/-- Runs the program with its arguments. -/
def run (clocks : Clocks) (arguments : List String) : m Outcome := do
  match request arguments with
  | .text text => return ⟨0, text, none⟩
  | .misuse => return ⟨2, "", none⟩
  | .command command => return .ofResult (← runCommand clocks command)

end

end CommandLine

end SheetCompiler

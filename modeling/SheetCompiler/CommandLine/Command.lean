import SheetCompiler.CommandLine.Option
import SheetCompiler.Path

/-!
# Commands

What the arguments of the program ask for.
-/

set_option autoImplicit false

namespace SheetCompiler.CommandLine

structure CompileOptions where
  inputs : List Path
  output : Path
  settings : Option Path
  typesDirectory : Option Path
  types : List String
  encoding : Option String
  writesSchemas : Bool
  deriving DecidableEq, Repr

structure InspectOptions where
  input : Path
  encoding : Option String
  nameSpace : String
  asJson : Bool
  deriving DecidableEq, Repr

inductive Command where
  | compile (options : CompileOptions)
  | inspect (options : InspectOptions)
  deriving DecidableEq, Repr

/-- What to do: show a text, run a command, or complain. -/
inductive Request where
  | text (text : String)
  | command (command : Command)
  | misuse
  deriving DecidableEq, Repr

/-! ## Texts -/

def versionText : String := "tabledef 0.3.0\n"

def helpText : String :=
  "Compile tag-annotated configuration tables into schemas, code and binary record sets

Usage: tabledef <COMMAND>

Commands:
  compile  Compile one or more tables into payloads, generated code and a localization table
  inspect  Print the resolved schema of a table
  help     Print this message or the help of the given subcommand(s)

Options:
  -h, --help     Print help
  -V, --version  Print version
"

def compileHelpText : String :=
  "Compile one or more tables into payloads, generated code and a localization table

Usage: tabledef compile [OPTIONS] --input <INPUTS>... --output <OUTPUT>

Options:
  -i, --input <INPUTS>...
          Table files or directories containing .csv/.tsv tables
  -o, --output <OUTPUT>
          Directory receiving compiled artifacts
  -c, --config <CONFIG>
          YAML compiler configuration
      --known-types-dir <KNOWN_TYPES_DIR>
          Directory whose table file names are valid reference targets
      --known-type <KNOWN_TYPES>
          Additional valid reference target (repeatable)
      --input-encoding <INPUT_ENCODING>
          Character encoding of the input files (defaults to utf-8)
      --emit-schema
          Also write the resolved schema of each table as JSON
  -h, --help
          Print help
"

def inspectHelpText : String :=
  "Print the resolved schema of a table

Usage: tabledef inspect [OPTIONS] --input <INPUT>

Options:
  -i, --input <INPUT>
          Table file to inspect
      --input-encoding <INPUT_ENCODING>
          Character encoding of the input file (defaults to utf-8)
      --namespace <NAMESPACE>
          Namespace recorded on the schema [default: ]
      --json
          Print the schema as JSON instead of a table
  -h, --help
          Print help
"

def helpHelpText : String :=
  "Print this message or the help of the given subcommand(s)

Usage: tabledef help [COMMAND]...

Arguments:
  [COMMAND]...  Print help for the subcommand(s)
"

/-! ## Commands -/

/-- An option with a value that is not empty, such as a path. -/
def valueOption (long : String) (short : Option Char) : OptionSpec :=
  ⟨long, short, .one, false, false⟩

/-- An option with a text. -/
def textOption (long : String) (repeats : Bool) : OptionSpec := ⟨long, none, .one, repeats, true⟩

def flagOption (long : String) : OptionSpec := ⟨long, none, .none, false, true⟩

def compileGrammar : Grammar :=
  ⟨[⟨"input", some 'i', .many, true, false⟩, valueOption "output" (some 'o'),
    valueOption "config" (some 'c'), valueOption "known-types-dir" none,
    textOption "known-type" true, textOption "input-encoding" false, flagOption "emit-schema"],
    false⟩

def inspectGrammar : Grammar :=
  ⟨[valueOption "input" (some 'i'), textOption "input-encoding" false,
    textOption "namespace" false, flagOption "json"], false⟩

/-- The request of a command with its grammar and help. -/
def requestOf (grammar : Grammar) (help : String) (command? : List Occurrence → Option Command)
    (arguments : List String) : Request :=
  match occurrences grammar .start arguments with
  | .error .help => .text help
  | .error .version => .text versionText
  | .error .misuse => .misuse
  | .ok found =>
      match command? found with
      | some command => .command command
      | none => .misuse

def compileOf? (found : List Occurrence) : Option Command := do
  let output ← (valuesOf found "output").head?
  if !hasOption found "input" then none
  return .compile
    { inputs := (valuesOf found "input").map Path.mk
      output := ⟨output⟩
      settings := (valuesOf found "config").head?.map Path.mk
      typesDirectory := (valuesOf found "known-types-dir").head?.map Path.mk
      types := valuesOf found "known-type"
      encoding := (valuesOf found "input-encoding").head?
      writesSchemas := hasOption found "emit-schema" }

def inspectOf? (found : List Occurrence) : Option Command := do
  let input ← (valuesOf found "input").head?
  return .inspect
    { input := ⟨input⟩
      encoding := (valuesOf found "input-encoding").head?
      nameSpace := ((valuesOf found "namespace").head?).getD ""
      asJson := hasOption found "json" }

/-- The help on a command. -/
def helpOn : List String → Request
  | [] => .text helpText
  | ["compile"] => .text compileHelpText
  | ["inspect"] => .text inspectHelpText
  | ["help"] => .text helpHelpText
  | _ => .misuse

/-- What the arguments of the program ask for. Its own options come before the name
of the command. -/
def request : List String → Request
  | "compile" :: arguments => requestOf compileGrammar compileHelpText compileOf? arguments
  | "inspect" :: arguments => requestOf inspectGrammar inspectHelpText inspectOf? arguments
  | "help" :: commands => helpOn commands
  | [] => .misuse
  | argument :: _ => requestOf ⟨[], true⟩ helpText (fun _ => none) [argument]

end SheetCompiler.CommandLine

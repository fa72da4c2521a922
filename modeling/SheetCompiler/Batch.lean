import SheetCompiler.Pipeline.Course
import SheetCompiler.Pipeline.Standard
import SheetCompiler.Relation.Graph
import SheetCompiler.Settings

/-!
# Batches

Compiling several tables together. The tables of a batch are known types for each
other, keys of localized texts are unique among them, and their references are
checked for cycles.
-/

set_option autoImplicit false

namespace SheetCompiler

/-- The rules of a table cannot be built. -/
structure TableRulesFault where
  table : String
  cause : RuleFault
  deriving DecidableEq, Repr

namespace TableRulesFault

/-- The fault without its innermost cause. -/
def message (fault : TableRulesFault) : String :=
  s!"Loading validation rules for '{fault.table}': {fault.cause.message}"

/-- The fault with its innermost cause. -/
def fullMessage (fault : TableRulesFault) : String :=
  s!"Loading validation rules for '{fault.table}': {fault.cause.fullMessage}"

end TableRulesFault

/-- How long the stages of each run of a batch take. -/
abbrev Clocks := Nat → Clock

/-- Clocks on which every stage takes the least time that there is. -/
def Clocks.least : Clocks := fun _ => .least

/-- The course of a batch: that of each of its runs. A cancellation that comes after a run has
looked for the last time is seen by the next one before its first stage. -/
abbrev BatchCourse := Nat → RunCourse

namespace BatchCourse

/-- A batch to which no cancellation comes. -/
def calm (clocks : Clocks) : BatchCourse := fun run => .calm (clocks run)

def least : BatchCourse := calm .least

/-- The course of the runs behind the first one. -/
def later (course : BatchCourse) : BatchCourse := fun run => course (run + 1)

end BatchCourse

/-- What a project compiles its tables with. -/
structure Compiler where
  settings : Settings
  known : KnownTypes
  deriving DecidableEq, Repr

namespace Compiler

/-- The compiler of a project. The types that its settings name are known too. -/
def ofSettings (settings : Settings) (known : KnownTypes) : Compiler :=
  ⟨settings, known.insertAll settings.knownTypes⟩

def runOptions (compiler : Compiler) : RunOptions :=
  let run := compiler.settings.run
  ⟨run.nameSpace, run.stopsAtFailure, run.stageBudget.map Elapsed.ofMilliseconds⟩

/-- The rule set of a table. -/
def rulesFor (compiler : Compiler) (table : String) : Except TableRulesFault RuleSet :=
  match compiler.settings.rulesFor? table with
  | none => .ok .empty
  | some declaration =>
      match RuleSet.ofDeclaration declaration with
      | .ok rules => .ok rules
      | .error fault => .error ⟨table, fault⟩

/-- The pipeline of a table. -/
def pipelineFor (compiler : Compiler) (table : String) (known : KnownTypes)
    (reserved : List String) : Except TableRulesFault Pipeline :=
  (compiler.rulesFor table).map fun rules =>
    .standard compiler.runOptions ⟨known, compiler.settings.localization, rules, reserved⟩

/-- Compiles a table on its own. -/
def compileTable (compiler : Compiler) (clock : Clock) (cancelled : Bool) (sheet : Sheet) :
    Except TableRulesFault RunReport :=
  (compiler.pipelineFor sheet.name compiler.known []).map fun pipeline =>
    pipeline.run clock cancelled sheet

/-- The keys that a run has issued. -/
def issuedKeys (report : RunReport) : List String :=
  report.state.localization.entries.map (·.key)

/-- Compiles tables one after the other. The keys that are issued so far are
reserved, and a run that is cancelled cancels those after it. -/
def compileFrom (compiler : Compiler) (course : BatchCourse) (known : KnownTypes)
    (cancelled : Bool) (issued : List String) :
    List Sheet → Except TableRulesFault (List RunReport)
  | [] => .ok []
  | sheet :: sheets => do
      let pipeline ← compiler.pipelineFor sheet.name known issued
      let report := pipeline.runAmid (course 0) cancelled sheet
      let reports ← compileFrom compiler course.later known report.state.cancelled
        (issued ++ issuedKeys report) sheets
      return report :: reports

end Compiler

/-- What a batch leaves behind. -/
structure BatchReport where
  results : List RunReport
  cycles : List (List String)
  cycleErrors : List String
  deriving DecidableEq, Repr

namespace BatchReport

def success (report : BatchReport) : Bool :=
  report.cycleErrors.isEmpty && report.results.all RunReport.success

def successes (report : BatchReport) : List RunReport := report.results.filter RunReport.success

def failedTables (report : BatchReport) : List String :=
  (report.results.filter fun result => !result.success).map (·.table)

/-- The localization entries of the successful tables. -/
def localization (report : BatchReport) : LocalizationTable :=
  report.successes.foldl (fun table result => table.extend result.state.localization) .empty

end BatchReport

/-- The error about a cycle of references. -/
def cycleMessage (cycle : List String) : String :=
  "Circular reference: " ++ Text.joined " -> " cycle

namespace Compiler

/-- Compiles the tables of a batch. Cycles are errors only where the settings say
so. -/
def compileAll (compiler : Compiler) (course : BatchCourse) (cancelled : Bool)
    (sheets : List Sheet) : Except TableRulesFault BatchReport := do
  let known := compiler.known.insertAll (sheets.map (·.name))
  let results ← compiler.compileFrom course known cancelled [] sheets
  let graph : RelationGraph := ⟨results.flatMap fun result => result.state.relations⟩
  let cycles := graph.cycles
  let errors := if compiler.settings.run.failsOnCycles then cycles.map cycleMessage else []
  return ⟨results, cycles, errors⟩

end Compiler

end SheetCompiler

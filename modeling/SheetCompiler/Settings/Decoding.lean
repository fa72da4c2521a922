import SheetCompiler.Document.Decoding
import SheetCompiler.Document.Yaml.Reader
import SheetCompiler.Settings

/-!
# Decoding settings

Settings from documents. Everything that a document leaves out keeps its standard
value.

The parameters of a rule stand beside its other members. They are read only after
the members that every rule has, so a scalar among them gets its type before it is
known where it belongs.
-/

set_option autoImplicit false

namespace SheetCompiler

open Document (Notation Parts)

namespace RunSettings

def partNames : List String :=
  ["namespace", "stop_on_validation_error", "fail_on_cycles", "stage_budget_ms"]

def ofDocument? (style : Notation) (document : Document) : Option RunSettings := do
  let parts ← Parts.ofDocument? style partNames document
  let nameSpace ← parts.defaulted? partNames "namespace" standard.nameSpace Document.text?
  let stopsAtFailure ←
    parts.defaulted? partNames "stop_on_validation_error" standard.stopsAtFailure Document.bool?
  let failsOnCycles ←
    parts.defaulted? partNames "fail_on_cycles" standard.failsOnCycles Document.bool?
  let stageBudget ←
    parts.defaulted? partNames "stage_budget_ms" standard.stageBudget
      (Document.optional? Document.natural?)
  return { nameSpace, stopsAtFailure, failsOnCycles, stageBudget }

end RunSettings

namespace LocalizationSettings

def partNames : List String :=
  ["enabled", "auto_detect", "keywords", "key_pattern", "sample_size", "detection_ratio",
    "length_threshold", "summary_words"]

def ofDocument? (style : Notation) (document : Document) : Option LocalizationSettings := do
  let parts ← Parts.ofDocument? style partNames document
  let enabled ← parts.defaulted? partNames "enabled" standard.enabled Document.bool?
  let autoDetect ← parts.defaulted? partNames "auto_detect" standard.autoDetect Document.bool?
  let keywords ←
    parts.defaulted? partNames "keywords" standard.keywords (Document.list? Document.text?)
  let keyPattern ← parts.defaulted? partNames "key_pattern" standard.keyPattern Document.text?
  let sampleSize ← parts.defaulted? partNames "sample_size" standard.sampleSize Document.natural?
  let detectionRatio ←
    parts.defaulted? partNames "detection_ratio" standard.detectionRatio Document.decimal?
  let lengthThreshold ←
    parts.defaulted? partNames "length_threshold" standard.lengthThreshold Document.natural?
  let summaryWords ←
    parts.defaulted? partNames "summary_words" standard.summaryWords Document.natural?
  return ⟨enabled, autoDetect, keywords, keyPattern, sampleSize, detectionRatio,
    lengthThreshold, summaryWords⟩

end LocalizationSettings

/-! ## Rules -/

namespace Severity

def ofDocument? (style : Notation) (document : Document) : Option Severity :=
  match style with
  | .json => document.constant? ofName?
  | .yaml => document.text?.bind ofName?

end Severity

namespace DeclaredCheck

/-- The names of the checks; a check may also be named by its position. -/
def names : List String := ["required", "min_length", "max_length", "pattern", "range"]

def nameOfDocument? : Document → Option String
  | .string name => some name
  | .integer (.ofNat index) => names[index]?
  | _ => none

/-- The members of a check, if none of its own parameters occurs twice. -/
def partsOf? (parameters : List String) (members : List (String × Document)) : Option Parts :=
  if Parts.isUnambiguous parameters members then some (.named members) else none

/-- A check by its name, with its parameters. -/
def ofMembers? (name : String) (members : List (String × Document)) : Option DeclaredCheck :=
  match name with
  | "required" => some .required
  | "min_length" => do
      let parts ← partsOf? ["length"] members
      (parts.required? ["length"] "length" Document.natural?).map .minLength
  | "max_length" => do
      let parts ← partsOf? ["length"] members
      (parts.required? ["length"] "length" Document.natural?).map .maxLength
  | "pattern" => do
      let parts ← partsOf? ["pattern"] members
      (parts.required? ["pattern"] "pattern" Document.text?).map .pattern
  | "range" => do
      let names := ["min", "max", "inclusive"]
      let parts ← partsOf? names members
      let least ← parts.required? names "min" Document.decimal?
      let greatest ← parts.required? names "max" Document.decimal?
      let inclusive ← parts.defaulted? names "inclusive" true Document.bool?
      return .range least greatest inclusive
  | _ => none

end DeclaredCheck

namespace DeclaredRule

/-- The members that every rule has. -/
def commonNames : List String := ["field", "severity", "when"]

def ofDocument? (style : Notation) (document : Document) : Option DeclaredRule := do
  let members ←
    match document with
    | .object members => some members
    | _ => none
  if !Parts.isUnambiguous commonNames members then none
  let common : Parts := .named members
  let field ← common.required? commonNames "field" Document.text?
  let severity ← common.nullable? commonNames "severity" (Severity.ofDocument? style)
  let condition ← common.nullable? commonNames "when" Document.text?
  let others := (members.filter fun member => !commonNames.contains member.1).map
    fun (name, content) => (name, content.settled)
  let tags := others.filter fun member => member.1 == "rule"
  let tag ←
    match tags with
    | [(_, tag)] => DeclaredCheck.nameOfDocument? tag
    | _ => none
  let check ← DeclaredCheck.ofMembers? tag others
  return { field, check, severity, condition }

end DeclaredRule

namespace TableRules

def partNames : List String := ["stop_on_first_error", "rules"]

def ofDocument? (style : Notation) (document : Document) : Option TableRules := do
  let parts ← Parts.ofDocument? style partNames document
  let stopsAtFirst ← parts.defaulted? partNames "stop_on_first_error" false Document.bool?
  let rules ←
    parts.defaulted? partNames "rules" [] (Document.list? (DeclaredRule.ofDocument? style))
  return { stopsAtFirst, rules }

end TableRules

/-! ## Settings -/

namespace Settings

/-- Puts an entry before the first one of a larger key. -/
def insertEntry {α : Type} (entry : String × α) : List (String × α) → List (String × α)
  | [] => [entry]
  | other :: entries =>
      if entry.1 < other.1 then entry :: other :: entries else other :: insertEntry entry entries

/-- Entries in the order of their keys. -/
def sortedEntries {α : Type} (entries : List (String × α)) : List (String × α) :=
  entries.foldr insertEntry []

def partNames : List String := ["pipeline", "localization", "known_types", "rules"]

def ofDocument? (style : Notation) (document : Document) : Option Settings := do
  let parts ← Parts.ofDocument? style partNames document
  let run ← parts.defaulted? partNames "pipeline" standard.run (RunSettings.ofDocument? style)
  let localization ←
    parts.defaulted? partNames "localization" standard.localization
      (LocalizationSettings.ofDocument? style)
  let knownTypes ←
    parts.defaulted? partNames "known_types" standard.knownTypes (Document.list? Document.text?)
  let rules ←
    parts.defaulted? partNames "rules" standard.rules
      (Document.table? (TableRules.ofDocument? style))
  return { run, localization, knownTypes, rules := sortedEntries rules }

/-- The settings of a file. -/
def ofFile? (bytes : List UInt8) : Option Settings :=
  (Yaml.ofBytes? bytes).bind (ofDocument? .yaml)

end Settings

end SheetCompiler

import SheetCompiler.Validation.Finding
import SheetCompiler.Validation.Rule

/-!
# Rule sets

The rules of a table and the walk over its rows. A row is checked by the global
rules, then by the rules of each field in schema order, then by the conditional
rules that apply to it, and at last by the custom rules. A set may stop the whole
walk at its first finding.
-/

set_option autoImplicit false

namespace SheetCompiler

/-- A rule for a field of the rows that a condition selects. -/
structure ConditionalRule where
  field : String
  applies : DataRow → Bool
  rule : FieldRule

/-- The rules of each field are in the order in which they were added, and the
fields are sorted by name. -/
structure RuleSet where
  global : List RowRule
  byField : List (String × List FieldRule)
  conditional : List ConditionalRule
  custom : List RowRule
  stopsAtFirst : Bool

namespace FieldRule

/-- The finding of a rule on the value of a field. -/
def finding? (rule : FieldRule) (field : String) (row : Nat) (value : String) : Option Finding :=
  (rule.failure? value).map fun message =>
    ⟨some field, some row, message, rule.errorType, rule.severity⟩

end FieldRule

namespace RowRule

/-- The finding of a rule on a row. -/
def finding? (rule : RowRule) (row : DataRow) : Option Finding :=
  (rule.failure? row).map fun message =>
    ⟨none, some row.index, message, rule.errorType, rule.severity⟩

end RowRule

namespace ConditionalRule

def finding? (conditional : ConditionalRule) (row : DataRow) : Option Finding :=
  if conditional.applies row then
    conditional.rule.finding? conditional.field row.index ((row.text? conditional.field).getD "")
  else none

end ConditionalRule

namespace RuleSet

def empty : RuleSet := ⟨[], [], [], [], false⟩

def isEmpty (rules : RuleSet) : Bool :=
  rules.global.isEmpty && rules.byField.isEmpty && rules.conditional.isEmpty && rules.custom.isEmpty

def addGlobal (rules : RuleSet) (rule : RowRule) : RuleSet :=
  { rules with global := rules.global ++ [rule] }

def addCustom (rules : RuleSet) (rule : RowRule) : RuleSet :=
  { rules with custom := rules.custom ++ [rule] }

def addConditional (rules : RuleSet) (rule : ConditionalRule) : RuleSet :=
  { rules with conditional := rules.conditional ++ [rule] }

/-- Adds a rule to those of a field, which come in the order of their names. -/
def insertRule (field : String) (rule : FieldRule) :
    List (String × List FieldRule) → List (String × List FieldRule)
  | [] => [(field, [rule])]
  | (other, rules) :: rest =>
      if field = other then (other, rules ++ [rule]) :: rest
      else if field < other then (field, [rule]) :: (other, rules) :: rest
      else (other, rules) :: insertRule field rule rest

def addToField (rules : RuleSet) (field : String) (rule : FieldRule) : RuleSet :=
  { rules with byField := insertRule field rule rules.byField }

/-- The rules of a field. -/
def rulesFor (rules : RuleSet) (field : String) : List FieldRule :=
  ((rules.byField.find? fun entry => entry.1 == field).map (·.2)).getD []

/-- The fields that rules name and the schema does not have. -/
def unknownFields (rules : RuleSet) (schema : Schema) : List String :=
  (rules.byField.map (·.1) ++ rules.conditional.map (·.field)).filter fun name =>
    (schema.field? name).isNone

/-- The outcome of one check. A set that stops at its first finding stops there. -/
def outcome (rules : RuleSet) : Option Finding → List Finding × Bool
  | none => ([], false)
  | some finding => ([finding], rules.stopsAtFirst)

/-- One walk for each item. Where one of them stops, the rest is left out. -/
def walkEach {α : Type} (walk : α → List Finding × Bool) : List α → List Finding × Bool
  | [] => ([], false)
  | item :: items =>
      let (findings, stopped) := walk item
      if stopped then (findings, true)
      else
        let (more, stopped) := walkEach walk items
        (findings ++ more, stopped)

/-- The walk over some rules for rows. -/
def walkRowRules (rules : RuleSet) (listed : List RowRule) (row : DataRow) :
    List Finding × Bool :=
  walkEach (fun rule => rules.outcome (rule.finding? row)) listed

/-- The walk over the fields of a row, and the rules of each of them. -/
def walkFields (rules : RuleSet) (row : DataRow) : List Finding × Bool :=
  walkEach (fun (field, value) =>
    walkEach (fun rule => rules.outcome (rule.finding? field.name row.index value))
      (rules.rulesFor field.name)) row.cells

/-- The walk over the conditional rules. -/
def walkConditional (rules : RuleSet) (row : DataRow) : List Finding × Bool :=
  walkEach (fun conditional => rules.outcome (conditional.finding? row)) rules.conditional

/-- The findings on a row that the walk collects, and whether it stops there. -/
def walkRow (rules : RuleSet) (row : DataRow) : List Finding × Bool :=
  walkEach (fun part => part row)
    [rules.walkRowRules rules.global, rules.walkFields, rules.walkConditional,
      rules.walkRowRules rules.custom]

/-- The findings that the walk over some rows collects. -/
def walk (rules : RuleSet) (rows : List DataRow) : List Finding :=
  (walkEach rules.walkRow rows).1

/-- Validates the data rows of a sheet. -/
def validate (rules : RuleSet) (schema : Schema) (sheet : Sheet) : ValidationReport :=
  .ofFindings (rules.walk (sheet.rowsOf schema))

end RuleSet

end SheetCompiler

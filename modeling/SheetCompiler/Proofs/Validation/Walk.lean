import Mathlib.Data.List.Forall2
import SheetCompiler.Validation.RuleSet

/-!
# Walks over rows

A walk that never stops collects everything that the rules find, row after row. A walk that
stops at its first finding collects that one and leaves out the rest, wherever it stands: in
the rules of a kind, in the fields of a row or in the rows of a sheet.
-/

set_option autoImplicit false

namespace SheetCompiler

namespace RuleSet

variable {α : Type} {rules : RuleSet}

/-- Everything that the rules find in a row. -/
def findingsIn (rules : RuleSet) (row : DataRow) : List Finding :=
  rules.global.filterMap (fun rule => rule.finding? row) ++
    (row.cells.flatMap fun (field, value) =>
      (rules.rulesFor field.name).filterMap fun rule => rule.finding? field.name row.index value) ++
    rules.conditional.filterMap (fun rule => rule.finding? row) ++
    rules.custom.filterMap (fun rule => rule.finding? row)

/-- What a walk collects of all that it could find, and whether it stops. -/
def collected (rules : RuleSet) (findings : List Finding) : List Finding × Bool :=
  if rules.stopsAtFirst then (findings.take 1, !findings.isEmpty) else (findings, false)

theorem outcome_eq_collected (rules : RuleSet) (found : Option Finding) :
    rules.outcome found = rules.collected found.toList := by
  cases found with
  | none => simp [outcome, collected]
  | some finding => cases stops : rules.stopsAtFirst <;> simp [outcome, collected, stops]

/-- A walk goes on behind some findings unless it has stopped at one of them. -/
theorem collected_append (rules : RuleSet) (former later : List Finding) :
    rules.collected (former ++ later) =
      if (rules.collected former).2 then ((rules.collected former).1, true)
      else ((rules.collected former).1 ++ (rules.collected later).1,
        (rules.collected later).2) := by
  cases stops : rules.stopsAtFirst with
  | false => simp [collected, stops]
  | true =>
      cases former with
      | nil => simp [collected, stops]
      | cons first former => simp [collected, stops]

/-- Walks one after the other collect what a single walk does. -/
theorem walkEach_eq_collected {walk : α → List Finding × Bool} {items : List α}
    {found : List (List Finding)}
    (each : List.Forall₂ (fun item findings => walk item = rules.collected findings) items found) :
    walkEach walk items = rules.collected found.flatten := by
  induction each with
  | nil => simp [walkEach, collected]
  | @cons item findings items found here _ ih =>
      rw [walkEach, here, ih, List.flatten_cons, collected_append]

theorem walkEach_flatMap {walk : α → List Finding × Bool} (findings : α → List Finding)
    (items : List α) (each : ∀ item, walk item = rules.collected (findings item)) :
    walkEach walk items = rules.collected (items.flatMap findings) := by
  rw [List.flatMap_def]
  refine walkEach_eq_collected ?_
  rw [List.forall₂_map_right_iff, List.forall₂_same]
  exact fun item _ => each item

theorem walkEach_outcome (finding? : α → Option Finding) (items : List α) :
    walkEach (fun item => rules.outcome (finding? item)) items =
      rules.collected (items.filterMap finding?) := by
  rw [List.filterMap_eq_flatMap_toList]
  exact walkEach_flatMap _ items fun item => outcome_eq_collected rules (finding? item)

theorem walkRow_eq_collected (rules : RuleSet) (row : DataRow) :
    rules.walkRow row = rules.collected (rules.findingsIn row) := by
  have parts : rules.findingsIn row = List.flatten
      [rules.global.filterMap fun rule => rule.finding? row,
        row.cells.flatMap fun (field, value) =>
          (rules.rulesFor field.name).filterMap fun rule =>
            rule.finding? field.name row.index value,
        rules.conditional.filterMap fun rule => rule.finding? row,
        rules.custom.filterMap fun rule => rule.finding? row] := by
    simp [findingsIn]
  rw [parts]
  refine walkEach_eq_collected
    (.cons ?global (.cons ?fields (.cons ?conditional (.cons ?custom .nil))))
  case global => exact walkEach_outcome _ rules.global
  case fields =>
    exact walkEach_flatMap _ row.cells fun (field, value) =>
      walkEach_outcome _ (rules.rulesFor field.name)
  case conditional => exact walkEach_outcome _ rules.conditional
  case custom => exact walkEach_outcome _ rules.custom

theorem walk_eq_collected (rules : RuleSet) (rows : List DataRow) :
    rules.walk rows = (rules.collected (rows.flatMap rules.findingsIn)).1 :=
  congrArg Prod.fst (walkEach_flatMap _ rows rules.walkRow_eq_collected)

/-- A walk that stops has found something, and what it has found is the first there is. -/
theorem walkRow_stops_iff (stops : rules.stopsAtFirst = true) (row : DataRow) :
    (rules.walkRow row).2 = true ↔ (rules.walkRow row).1 ≠ [] := by
  rw [walkRow_eq_collected, collected, if_pos stops]
  cases rules.findingsIn row <;> simp

end RuleSet

end SheetCompiler

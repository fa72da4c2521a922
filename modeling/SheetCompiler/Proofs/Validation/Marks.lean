import SheetCompiler.Proofs.Localization.Repetition
import SheetCompiler.Proofs.Validation.Walk
import SheetCompiler.Validation.Declaration

/-!
# Rules and marks of localization

A rule of rows may look at whole fields, and so at whether they are localized. The rules
that settings declare never do.
-/

set_option autoImplicit false

namespace SheetCompiler

namespace DataRow

/-- A row seen through fields that have never been localized. -/
def unmarked (row : DataRow) : DataRow :=
  { row with cells := row.cells.map fun (field, text) => (field.unmarked, text) }

theorem bindCells_unmarked (bindings : Condition.Bindings) (cells : List (Field × String)) :
    bindCells bindings (cells.map fun (field, text) => (field.unmarked, text)) =
      bindCells bindings cells := by
  induction cells generalizing bindings with
  | nil => rfl
  | cons cell cells ih =>
      obtain ⟨field, text⟩ := cell
      have name : field.unmarked.name = field.name := rfl
      have type : field.unmarked.type = field.type := rfl
      rw [List.map_cons]
      unfold bindCells
      dsimp only
      rw [name, type]
      cases bindings.bind? field.name (operandOf field.type text) with
      | none => rfl
      | some bound => exact ih bound

theorem text?_unmarked (row : DataRow) (name : String) :
    row.unmarked.text? name = row.text? name := by
  unfold text? unmarked
  dsimp only
  rw [List.find?_map, Option.map_map]
  rfl

theorem satisfies_unmarked (row : DataRow) (condition : String) :
    row.unmarked.satisfies condition = row.satisfies condition := by
  have bound : row.unmarked.bindings = row.bindings := by
    unfold bindings
    rw [unmarked, bindCells_unmarked]
    rfl
  rw [satisfies, bound, satisfies]

end DataRow

namespace RuleSet

variable {rules : RuleSet}

/-- Rules that do not look at whether a field is localized. -/
structure IgnoresMarks (rules : RuleSet) : Prop where
  global : ∀ rule ∈ rules.global, ∀ row, rule.failure? row.unmarked = rule.failure? row
  conditional : ∀ rule ∈ rules.conditional, ∀ row, rule.applies row.unmarked = rule.applies row
  custom : ∀ rule ∈ rules.custom, ∀ row, rule.failure? row.unmarked = rule.failure? row

namespace IgnoresMarks

theorem filterMap_unmarked {rules : List RowRule} (row : DataRow)
    (ignores : ∀ rule ∈ rules, ∀ row : DataRow, rule.failure? row.unmarked = rule.failure? row) :
    rules.filterMap (fun rule => rule.finding? row.unmarked) =
      rules.filterMap fun rule => rule.finding? row := by
  refine List.filterMap_congr fun rule listed => ?_
  rw [RowRule.finding?, ignores rule listed]
  rfl

theorem findingsIn_unmarked (ignores : rules.IgnoresMarks) (row : DataRow) :
    rules.findingsIn row.unmarked = rules.findingsIn row := by
  have conditional : rules.conditional.filterMap (fun rule => rule.finding? row.unmarked) =
      rules.conditional.filterMap fun rule => rule.finding? row := by
    refine List.filterMap_congr fun rule listed => ?_
    rw [ConditionalRule.finding?, ignores.conditional rule listed, DataRow.text?_unmarked]
    rfl
  have fields : (row.unmarked.cells.flatMap fun (field, value) =>
      (rules.rulesFor field.name).filterMap fun rule =>
        rule.finding? field.name row.unmarked.index value) =
      row.cells.flatMap fun (field, value) =>
        (rules.rulesFor field.name).filterMap fun rule =>
          rule.finding? field.name row.index value := List.flatMap_map ..
  unfold findingsIn
  rw [filterMap_unmarked row ignores.global, filterMap_unmarked row ignores.custom, conditional,
    fields]

/-- The walk over rows that differ in their marks finds the same. -/
theorem walk_eq (ignores : rules.IgnoresMarks) {rows others : List DataRow}
    (same : rows.map DataRow.unmarked = others.map DataRow.unmarked) :
    rules.walk rows = rules.walk others := by
  have found (rows : List DataRow) : rows.flatMap rules.findingsIn =
      (rows.map DataRow.unmarked).flatMap rules.findingsIn := by
    rw [List.flatMap_map]
    exact List.flatMap_congr fun row _ => (ignores.findingsIn_unmarked row).symm
  rw [walk_eq_collected, walk_eq_collected, found, same, ← found]

theorem validate_eq (ignores : rules.IgnoresMarks) {schema other : Schema}
    (same : other.fields.map Field.unmarked = schema.fields.map Field.unmarked) (sheet : Sheet) :
    rules.validate other sheet = rules.validate schema sheet := by
  have cells (schema : Schema) (index : Nat) (cells : List String) :
      (DataRow.ofCells schema index cells).unmarked =
        ⟨index, (schema.fields.map Field.unmarked).map fun field =>
          (field, (cells[field.column]?).getD "")⟩ := by
    unfold DataRow.unmarked DataRow.ofCells
    rw [List.map_map, List.map_map]
    rfl
  have rows : (sheet.rowsOf other).map DataRow.unmarked =
      (sheet.rowsOf schema).map DataRow.unmarked := by
    unfold Sheet.rowsOf
    rw [List.map_map, List.map_map]
    refine List.map_congr_left fun row _ => ?_
    rw [Function.comp_apply, Function.comp_apply, cells, cells, same]
  unfold validate
  rw [ignores.walk_eq rows]

theorem empty : RuleSet.empty.IgnoresMarks := ⟨nofun, nofun, nofun⟩

theorem addDeclared {declared : DeclaredRule} {extended : RuleSet} (ignores : rules.IgnoresMarks)
    (adds : rules.addDeclared declared = .ok extended) : extended.IgnoresMarks := by
  unfold RuleSet.addDeclared at adds
  split at adds
  · cases adds
  · split at adds <;> obtain rfl := Except.ok.inj adds
    · refine ⟨ignores.global, ?_, ignores.custom⟩
      refine List.forall_mem_append.mpr ⟨ignores.conditional, ?_⟩
      exact List.forall_mem_singleton.mpr fun row => row.satisfies_unmarked _
    · exact ⟨ignores.global, ignores.conditional, ignores.custom⟩

/-- Declared rules look at names, types and texts alone. -/
theorem ofDeclaration {declaration : TableRules}
    (builds : RuleSet.ofDeclaration declaration = .ok rules) : rules.IgnoresMarks := by
  have added (declared : List DeclaredRule) (start : RuleSet) (ignores : start.IgnoresMarks)
      (builds : declared.foldlM RuleSet.addDeclared start = .ok rules) : rules.IgnoresMarks := by
    induction declared generalizing start with
    | nil =>
        obtain rfl := Except.ok.inj builds
        exact ignores
    | cons first declared ih =>
        rw [List.foldlM_cons] at builds
        cases adds : start.addDeclared first with
        | error fault =>
            rw [adds] at builds
            cases builds
        | ok extended =>
            rw [adds] at builds
            exact ih extended (ignores.addDeclared adds) builds
  exact added declaration.rules
    { RuleSet.empty with stopsAtFirst := declaration.stopsAtFirst } ⟨nofun, nofun, nofun⟩ builds

end IgnoresMarks

end RuleSet

end SheetCompiler

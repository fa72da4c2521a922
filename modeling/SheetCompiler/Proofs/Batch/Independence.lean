import SheetCompiler.Proofs.Batch.Order

/-!
# Batches in any order

Apart from the keys of texts, a table in a batch comes out as it does on its own with the names
of all tables known. So neither the tables before it nor those behind it have a say in the rest
of its result, and the cycles of a batch do not depend on the order of its tables.
-/

set_option autoImplicit false

namespace SheetCompiler

namespace RunReport.AlikeButKeys

variable {report other later : RunReport}

theorem symm (alike : report.AlikeButKeys other) : other.AlikeButKeys report where
  diagnostics := alike.diagnostics.symm
  files := alike.files.symm
  relations := alike.relations.symm
  fields := alike.fields.symm
  cellErrors := alike.cellErrors.symm
  losesTexts column := (alike.losesTexts column).symm
  sheet := ⟨alike.sheet.name.symm, alike.sheet.rowCount.symm, fun row column whole =>
    (alike.sheet.cell? row column ((alike.losesTexts column).not.mp whole)).symm⟩

theorem trans (first : report.AlikeButKeys other) (second : other.AlikeButKeys later) :
    report.AlikeButKeys later where
  diagnostics := second.diagnostics.trans first.diagnostics
  files := second.files.trans first.files
  relations := second.relations.trans first.relations
  fields := second.fields.trans first.fields
  cellErrors := second.cellErrors.trans first.cellErrors
  losesTexts column := (second.losesTexts column).trans (first.losesTexts column)
  sheet := first.sheet.trans (second.sheet.mono fun column => (first.losesTexts column).mp)

end RunReport.AlikeButKeys

namespace Compiler

variable {compiler : Compiler} {clocks : Clocks} {watch : Clock} {known : KnownTypes}
  {cancelled : Bool} {issued : List String} {sheet : Sheet} {sheets others : List Sheet} {reports : List RunReport}

/-! ## Tables on their own -/

/-- A report is what a table gives on its own with some types known, but for its keys. -/
structure IsResultOf (compiler : Compiler) (clock : Clock) (known : KnownTypes) (cancelled : Bool)
    (sheet : Sheet) (report : RunReport) : Prop where
  alone : ∃ alone, ({ compiler with known } : Compiler).compileTable clock cancelled sheet =
    .ok alone ∧ alone.AlikeButKeys report
  resolved : ∀ schema, report.state.schema = some schema →
    ∀ field ∈ schema.fields, Standard.ResolvedBy known field

/-- Two results of one table differ in their keys alone. -/
theorem IsResultOf.alikeButKeys {report other : RunReport}
    (result : compiler.IsResultOf watch known cancelled sheet report)
    (again : compiler.IsResultOf watch known cancelled sheet other) :
    report.AlikeButKeys other := by
  obtain ⟨alone, compiles, former⟩ := result.alone
  obtain ⟨same, recompiles, later⟩ := again.alone
  obtain rfl := Except.ok.inj (compiles.symm.trans recompiles)
  exact former.symm.trans later

/-- Each table of a batch gives what it gives on its own, but for its keys. -/
theorem isResultOf_compileFrom (unlimited : compiler.settings.run.stageBudget = none)
    (watch : Clock)
    (compiles : compiler.compileFrom (.calm clocks) known cancelled issued sheets = .ok reports) :
    List.Forall₂ (compiler.IsResultOf watch known cancelled) sheets reports := by
  induction sheets generalizing clocks issued reports with
  | nil =>
      obtain rfl := Except.ok.inj compiles
      exact .nil
  | cons sheet sheets ih =>
      obtain ⟨rules, report, rest, builds, ran, continues, rfl⟩ :=
        exists_of_compileFrom_cons compiles
      change report = Pipeline.run _ (clocks 0) cancelled sheet at ran
      rw [runOptions_unlimited unlimited] at ran
      have going : report.state.cancelled = cancelled := by
        rw [ran]
        exact Standard.cancelled_run _ _ _ _ _ _
      rw [going] at continues
      let settings : StandardSettings := ⟨known, compiler.settings.localization, rules, []⟩
      let options := compiler.runOptions
      have alone : ({ compiler with known } : Compiler).compileTable watch cancelled sheet =
          .ok ((Pipeline.standard options settings).run watch cancelled sheet) := by
        have same : ({ compiler with known } : Compiler).rulesFor sheet.name = .ok rules := builds
        rw [compileTable, pipelineFor, same]
        rfl
      refine .cons ⟨⟨_, alone, ?_⟩, fun schema resolves => ?_⟩ (ih continues)
      · rw [ran, show options = _ from runOptions_unlimited unlimited]
        exact Standard.run_alikeButKeys settings issued _ _ watch (clocks 0) cancelled sheet
      · rw [ran] at resolves
        exact Standard.resolvedBy_run { settings with reserved := issued } _ _ (clocks 0)
          cancelled sheet resolves

theorem exists_isResultOf
    (results : List.Forall₂ (compiler.IsResultOf watch known cancelled) sheets reports) {i : Nat}
    (here : sheets[i]? = some sheet) :
    ∃ report, reports[i]? = some report ∧
      compiler.IsResultOf watch known cancelled sheet report := by
  obtain ⟨inside, rfl⟩ := List.getElem?_eq_some_iff.mp here
  have within := results.length_eq ▸ inside
  exact ⟨_, List.getElem?_eq_getElem within, results.get inside within⟩

/-- The relations of a table on its own. -/
def tableRelations (compiler : Compiler) (clock : Clock) (known : KnownTypes) (cancelled : Bool)
    (sheet : Sheet) : List Relation :=
  match ({ compiler with known } : Compiler).compileTable clock cancelled sheet with
  | .ok report => report.state.relations
  | .error _ => []

theorem relations_of_isResultOf
    (results : List.Forall₂ (compiler.IsResultOf watch known cancelled) sheets reports) :
    reports.flatMap (fun report => report.state.relations) =
      sheets.flatMap (compiler.tableRelations watch known cancelled) := by
  induction results with
  | nil => rfl
  | @cons sheet report _ _ result _ ih =>
      obtain ⟨alone, compiles, alike⟩ := result.alone
      have same : compiler.tableRelations watch known cancelled sheet = report.state.relations := by
        rw [tableRelations, compiles]
        exact alike.relations.symm
      rw [List.flatMap_cons, List.flatMap_cons, ih, same]

/-! ## Permuted batches -/

theorem cycles_of_compileAll {course : BatchCourse} {report : BatchReport}
    (compiles : compiler.compileAll course cancelled sheets = .ok report) :
    report.cycles =
        (RelationGraph.mk (report.results.flatMap fun result => result.state.relations)).cycles ∧
      report.cycleErrors =
        if compiler.settings.run.failsOnCycles then report.cycles.map cycleMessage else [] := by
  unfold compileAll at compiles
  dsimp only [bind, Except.bind] at compiles
  split at compiles
  · cases compiles
  · obtain rfl := Except.ok.inj compiles
    exact ⟨rfl, rfl⟩

theorem insertAll_names_perm (compiler : Compiler) (perm : sheets.Perm others) :
    compiler.known.insertAll (sheets.map (·.name)) =
      compiler.known.insertAll (others.map (·.name)) :=
  congrArg KnownTypes.mk (compiler.known.names.insertAll_perm (perm.map _))

theorem contains_insertAll_iff (known : KnownTypes) (names : List String) (name : String) :
    (known.insertAll names).contains name = true ↔ known.contains name = true ∨ name ∈ names := by
  unfold KnownTypes.contains NameSet.contains KnownTypes.insertAll
  rw [List.contains_iff_mem, List.contains_iff_mem, NameSet.mem_insertAll]
  exact or_comm

/-- Without a budget the order of a batch has a say in nothing but the keys of texts. Whatever
stands before or behind a table, it resolves its references to every table of the batch. -/
theorem compileAll_perm (compiler : Compiler) (clocks watches : Clocks) (cancelled : Bool)
    (sheets others : List Sheet) (report : BatchReport)
    (unlimited : compiler.settings.run.stageBudget = none) (perm : sheets.Perm others)
    (compiles : compiler.compileAll (.calm clocks) cancelled sheets = .ok report) :
    ∃ other, compiler.compileAll (.calm watches) cancelled others = .ok other ∧
      other.cycles = report.cycles ∧ other.cycleErrors = report.cycleErrors ∧
      ∀ sheet (i j : Nat), sheets[i]? = some sheet → others[j]? = some sheet →
        ∃ result again, report.results[i]? = some result ∧ other.results[j]? = some again ∧
          result.AlikeButKeys again ∧
          ∀ schema, again.state.schema = some schema → ∀ field ∈ schema.fields,
            ∀ target, field.reference? = some target →
              (target.resolved = true ↔ compiler.known.contains target.typeName = true ∨
                target.typeName ∈ sheets.map (·.name)) := by
  have ran := exists_compileFrom_of_compileAll compiles
  have builds := (exists_compileFrom_iff _).mp ⟨_, ran⟩
  obtain ⟨reports, reruns⟩ := (exists_compileFrom_iff (.calm watches)).mpr
    fun sheet (listed : sheet ∈ others) => builds sheet (perm.mem_iff.mpr listed)
  obtain ⟨other, recompiles, rfl⟩ := exists_compileAll_of_compileFrom reruns
  rw [← compiler.insertAll_names_perm perm] at reruns
  have results := isResultOf_compileFrom unlimited (clocks 0) ran
  have again := isResultOf_compileFrom unlimited (clocks 0) reruns
  obtain ⟨cycles, errors⟩ := cycles_of_compileAll compiles
  obtain ⟨recycles, failures⟩ := cycles_of_compileAll recompiles
  have same : other.cycles = report.cycles := by
    rw [recycles, cycles, relations_of_isResultOf results, relations_of_isResultOf again]
    exact (RelationGraph.cycles_perm (perm.flatMap_right _)).symm
  refine ⟨other, recompiles, same, by rw [failures, errors, same], ?_⟩
  intro sheet i j here there
  obtain ⟨result, listed, first⟩ := exists_isResultOf results here
  obtain ⟨repeated, relisted, second⟩ := exists_isResultOf again there
  refine ⟨result, repeated, listed, relisted, first.alikeButKeys second, ?_⟩
  intro schema resolves field member target refers
  rw [second.resolved schema resolves field member target refers]
  exact contains_insertAll_iff _ _ _

/-- Two tables that refer to each other, with the same text. -/
theorem compileAll_perm_crossed :
    let compiler : Compiler :=
      ⟨{ Settings.standard with run := { RunSettings.standard with failsOnCycles := true } },
        .empty⟩
    let weapon : Sheet := ⟨"Weapon",
      [["Name@Lan", "ArmorId@Ref"], ["string", "int"], ["", ""], ["", ""], ["Sword", "1"]]⟩
    let armor : Sheet := ⟨"Armor",
      [["Name@Lan", "Made@Ref(Weapon)"], ["string", "int"], ["", ""], ["", ""], ["Sword", "1"]]⟩
    ∃ report other,
      compiler.compileAll .least false [weapon, armor] = .ok report ∧
      compiler.compileAll .least false [armor, weapon] = .ok other ∧
      report.results.flatMap issuedKeys = ["NAME_SWORD", "NAME_SWORD_1"] ∧
      other.cycles = [["Armor", "Weapon", "Armor"]] ∧
      other.cycleErrors = ["Circular reference: Armor -> Weapon -> Armor"] ∧
      ∃ result again, report.results[1]? = some result ∧ other.results[0]? = some again ∧
        result.AlikeButKeys again := by
  intro compiler weapon armor
  let graph : RelationGraph :=
    ⟨[⟨"ArmorId", "Weapon", "Armor", true⟩, ⟨"Made", "Armor", "Weapon", true⟩]⟩
  have round : graph.cycles = [["Armor", "Weapon", "Armor"]] := by
    have nodes : graph.nodes = ⟨["Armor", "Weapon"]⟩ := by decide +kernel
    have first : graph.targets "Armor" = ⟨["Weapon"]⟩ := by decide +kernel
    have second : graph.targets "Weapon" = ⟨["Armor"]⟩ := by decide +kernel
    simp [RelationGraph.cycles, RelationGraph.searchFrom, RelationGraph.visit,
      RelationGraph.follow, RelationGraph.closedPath, nodes, first, second, NameSet.size]
  have checked : (compiler.compileAll .least false [weapon, armor]).toOption.any (fun report =>
      decide (report.results.flatMap issuedKeys = ["NAME_SWORD", "NAME_SWORD_1"] ∧
        report.results.flatMap (fun result => result.state.relations) = graph.relations)) =
          true := by decide +kernel
  cases compiles : compiler.compileAll .least false [weapon, armor] with
  | error fault =>
      rw [compiles] at checked
      cases checked
  | ok report =>
      rw [compiles] at checked
      obtain ⟨keys, relations⟩ := of_decide_eq_true checked
      obtain ⟨cycles, errors⟩ := cycles_of_compileAll compiles
      rw [relations, round] at cycles
      obtain ⟨other, finishes, same, failures, results⟩ := compileAll_perm compiler .least .least
        false [weapon, armor] [armor, weapon] report rfl (.swap armor weapon []) compiles
      obtain ⟨result, again, here, there, alike, -⟩ := results armor 1 0 rfl rfl
      refine ⟨report, other, rfl, finishes, keys, same.trans cycles, failures.trans ?_, result,
        again, here, there, alike⟩
      rw [errors, cycles]
      rfl

end Compiler

end SheetCompiler

import SheetCompiler.Proofs.Batch.Localization
import SheetCompiler.Proofs.Pipeline.Reserved
import SheetCompiler.Proofs.Relation.Permutation

/-!
# The order of a batch

The tables of a batch depend on each other through the names that are known and through the
keys that are taken. The names do not depend on the order of the tables. The keys give later
tables other suffixes, which only rules that notice them can tell.
-/

set_option autoImplicit false

namespace SheetCompiler

namespace Compiler

variable {compiler : Compiler} {clocks : Clocks} {known : KnownTypes} {cancelled : Bool}
  {issued : List String} {sheet : Sheet} {sheets others : List Sheet} {reports : List RunReport}
  {rules : RuleSet}

/-! ## Single tables -/

/-- The rules of a table, as far as they decide, do not notice the suffixes of its keys. -/
def IgnoresSuffixes (compiler : Compiler) (sheet : Sheet) : Prop :=
  ∀ declaration, compiler.settings.rulesFor? sheet.name = some declaration →
    ∀ rule ∈ declaration.rules,
      (rule.severity.getD .error).decides declaration.stopsAtFirst = true →
        rule.IgnoresSuffixes (Standard.movedFields compiler.known compiler.settings.localization
          compiler.settings.run.nameSpace sheet)

theorem ignores_of_rulesFor (ignores : compiler.IgnoresSuffixes sheet)
    (builds : compiler.rulesFor sheet.name = .ok rules) :
    rules.IgnoresMarks ∧
      rules.IgnoresSuffixes (Standard.movedFields compiler.known compiler.settings.localization
        compiler.settings.run.nameSpace sheet) := by
  unfold rulesFor at builds
  cases declared : compiler.settings.rulesFor? sheet.name with
  | none =>
      rw [declared] at builds
      obtain rfl := Except.ok.inj builds
      exact ⟨.empty, rfl, rfl, nofun, nofun⟩
  | some declaration =>
      rw [declared] at builds
      dsimp only at builds
      cases read : RuleSet.ofDeclaration declaration with
      | error fault =>
          rw [read] at builds
          cases builds
      | ok found =>
          rw [read] at builds
          obtain rfl := Except.ok.inj builds
          exact ⟨.ofDeclaration read, .ofDeclaration (ignores declaration declared) read⟩

/-- Whether a table succeeds on its own, with some types known. -/
def succeeds (compiler : Compiler) (clock : Clock) (known : KnownTypes) (cancelled : Bool)
    (sheet : Sheet) : Bool :=
  match ({ compiler with known } : Compiler).compileTable clock cancelled sheet with
  | .ok report => report.success
  | .error _ => false

theorem runOptions_unlimited (unlimited : compiler.settings.run.stageBudget = none) :
    compiler.runOptions =
      ⟨compiler.settings.run.nameSpace, compiler.settings.run.stopsAtFailure, none⟩ := by
  rw [runOptions, unlimited]
  rfl

/-- A table succeeds with reserved keys exactly when it does on its own, at any speed. -/
theorem success_reserved (unlimited : compiler.settings.run.stageBudget = none)
    (ignores : compiler.IgnoresSuffixes sheet) (builds : compiler.rulesFor sheet.name = .ok rules)
    (clock watch : Clock) (known : KnownTypes) (cancelled : Bool) (issued : List String) :
    ((Pipeline.standard compiler.runOptions
        ⟨known, compiler.settings.localization, rules, issued⟩).run clock cancelled sheet).success =
      compiler.succeeds watch known cancelled sheet := by
  have alone : compiler.succeeds watch known cancelled sheet =
      ((Pipeline.standard compiler.runOptions
        ⟨known, compiler.settings.localization, rules, []⟩).run watch cancelled sheet).success := by
    have same : ({ compiler with known } : Compiler).rulesFor sheet.name = .ok rules := builds
    rw [succeeds, compileTable, pipelineFor, same]
    rfl
  obtain ⟨marks, suffixes⟩ := ignores_of_rulesFor ignores builds
  rw [Standard.movedFields_known compiler.known known] at suffixes
  rw [alone, runOptions_unlimited unlimited]
  cases cancelled with
  | true =>
      have fails (settings : StandardSettings) (clock : Clock) :
          ((Pipeline.standard ⟨compiler.settings.run.nameSpace,
            compiler.settings.run.stopsAtFailure, none⟩ settings).run clock true sheet).success =
              false := by
        rw [Bool.eq_false_iff]
        intro succeeds
        have completed := (RunReport.success_iff.mp succeeds).1
        rw [Pipeline.fault_run_cancelled] at completed
        cases completed
      rw [fails, fails]
  | false =>
      let settings : StandardSettings := ⟨known, compiler.settings.localization, rules, []⟩
      have suffixes : settings.rules.IgnoresSuffixes (Standard.movedFields settings.known
        settings.localization compiler.settings.run.nameSpace sheet) := suffixes
      rw [Bool.eq_iff_iff, Standard.run_succeeds_iff, Standard.run_succeeds_iff]
      exact Standard.acceptable_reserved_iff issued marks suffixes

/-! ## Batches -/

/-- Each table of a batch succeeds exactly when it does on its own. -/
theorem success_compileFrom (unlimited : compiler.settings.run.stageBudget = none) (watch : Clock)
    (ignores : ∀ sheet ∈ sheets, compiler.IgnoresSuffixes sheet)
    (compiles : compiler.compileFrom (.calm clocks) known cancelled issued sheets = .ok reports) :
    reports.map RunReport.success = sheets.map (compiler.succeeds watch known cancelled) := by
  induction sheets generalizing clocks issued reports with
  | nil =>
      obtain rfl := Except.ok.inj compiles
      rfl
  | cons sheet sheets ih =>
      obtain ⟨rules, report, rest, builds, ran, continues, rfl⟩ :=
        exists_of_compileFrom_cons compiles
      change report = Pipeline.run _ (clocks 0) cancelled sheet at ran
      rw [List.forall_mem_cons] at ignores
      have going : report.state.cancelled = cancelled := by
        rw [ran, runOptions_unlimited unlimited]
        exact Standard.cancelled_run _ _ _ _ _ _
      rw [going] at continues
      rw [List.map_cons, List.map_cons, ih ignores.2 continues, ran]
      exact congrArg (· :: _) (success_reserved unlimited ignores.1 builds (clocks 0) watch known
        cancelled issued)

/-- A batch has a report exactly when the rules of all its tables can be built. -/
theorem exists_compileFrom_iff (course : BatchCourse) :
    (∃ reports, compiler.compileFrom course known cancelled issued sheets = .ok reports) ↔
      ∀ sheet ∈ sheets, ∃ rules, compiler.rulesFor sheet.name = .ok rules := by
  induction sheets generalizing course cancelled issued with
  | nil => exact ⟨fun _ => nofun, fun _ => ⟨[], rfl⟩⟩
  | cons sheet sheets ih =>
      rw [List.forall_mem_cons]
      constructor
      · rintro ⟨reports, compiles⟩
        obtain ⟨rules, report, rest, builds, ran, continues, rfl⟩ :=
          exists_of_compileFrom_cons compiles
        exact ⟨⟨rules, builds⟩, (ih _).mp ⟨rest, continues⟩⟩
      · rintro ⟨⟨rules, builds⟩, later⟩
        unfold compileFrom pipelineFor
        rw [builds]
        dsimp only [Except.map, bind, Except.bind]
        obtain ⟨rest, continues⟩ := (ih course.later).mpr later
        rw [continues]
        exact ⟨_, rfl⟩

theorem exists_compileAll_of_compileFrom {course : BatchCourse}
    (compiles : compiler.compileFrom course (compiler.known.insertAll (sheets.map (·.name)))
      cancelled [] sheets = .ok reports) :
    ∃ report, compiler.compileAll course cancelled sheets = .ok report ∧
      report.results = reports := by
  unfold compileAll
  dsimp only [bind, Except.bind]
  rw [compiles]
  exact ⟨_, rfl, rfl⟩

/-- Without a budget each table succeeds in a batch exactly when it does on its own with the
names of all tables known, wherever it stands and at any speed, as long as its rules do not
notice suffixes. -/
theorem compileAll_success_perm (compiler : Compiler) (clocks watches : Clocks) (clock : Clock)
    (cancelled : Bool) (sheets others : List Sheet) (report : BatchReport)
    (unlimited : compiler.settings.run.stageBudget = none) (perm : sheets.Perm others)
    (ignores : ∀ sheet ∈ sheets, compiler.IgnoresSuffixes sheet)
    (compiles : compiler.compileAll (.calm clocks) cancelled sheets = .ok report) :
    ∃ other, compiler.compileAll (.calm watches) cancelled others = .ok other ∧
      let known := compiler.known.insertAll (sheets.map (·.name))
      let verdict := compiler.succeeds clock known cancelled
      report.results.map RunReport.success = sheets.map verdict ∧
      other.results.map RunReport.success = others.map verdict := by
  have ran := exists_compileFrom_of_compileAll compiles
  have known : compiler.known.insertAll (others.map (·.name)) =
      compiler.known.insertAll (sheets.map (·.name)) :=
    congrArg KnownTypes.mk (compiler.known.names.insertAll_perm (perm.map _)).symm
  have builds := (exists_compileFrom_iff _).mp ⟨_, ran⟩
  obtain ⟨reports, again⟩ := (exists_compileFrom_iff (.calm watches)).mpr
    fun sheet (listed : sheet ∈ others) => builds sheet (perm.mem_iff.mpr listed)
  obtain ⟨other, finishes, results⟩ := exists_compileAll_of_compileFrom again
  refine ⟨other, finishes, success_compileFrom unlimited clock ignores ran, ?_⟩
  rw [results]
  rw [known] at again
  exact success_compileFrom unlimited clock
    (fun sheet listed => ignores sheet (perm.mem_iff.mpr listed)) again

/-- A table with a text that is taken, and rules that do not notice it. -/
theorem compileAll_success_perm_sameText :
    let rules : TableRules :=
      ⟨false, [⟨"Name", .required, none, none⟩, ⟨"Note", .maxLength 4, none, some "Power > 3"⟩]⟩
    let compiler : Compiler := ⟨{ Settings.standard with rules := [("Armor", rules)] }, .empty⟩
    let weapon : Sheet := ⟨"Weapon", [["Name@Lan"], ["string"], [""], [""], ["Sword"]]⟩
    let armor : Sheet := ⟨"Armor",
      [["Name@Lan", "Power", "Note"], ["string", "int", "string"], ["", "", ""], ["", "", ""],
        ["Sword", "5", "sharp"]]⟩
    ∃ report other,
      compiler.compileAll .least false [weapon, armor] = .ok report ∧
      compiler.compileAll .least false [armor, weapon] = .ok other ∧
      report.results.map RunReport.success = [true, false] ∧
      other.results.map RunReport.success = [false, true] := by
  intro rules compiler weapon armor
  have ignores : ∀ sheet ∈ [weapon, armor], compiler.IgnoresSuffixes sheet := by
    have moved : Standard.movedFields .empty .standard "" armor = ["Name"] := by decide +kernel
    have names : Condition.namesOf "Power > 3" = ["Power"] := by decide +kernel
    refine List.forall_mem_cons.mpr ⟨nofun, List.forall_mem_singleton.mpr ?_⟩
    intro declaration declared rule member _
    obtain rfl := Option.some.inj declared
    rcases List.mem_pair.mp member with rfl | rfl
    · exact ⟨nofun, nofun⟩
    · refine ⟨fun _ moves => ?_, fun condition guards seen => ?_⟩
      · exact absurd (moved ▸ moves) (by decide)
      · obtain rfl := Option.some.inj guards
        obtain ⟨name, listed, moves⟩ := seen
        obtain rfl := List.mem_singleton.mp (names ▸ listed)
        exact absurd (moved ▸ moves) (by decide)
  have compiled : ∃ report, compiler.compileAll .least false [weapon, armor] = .ok report := by
    have builds : (compiler.compileAll .least false [weapon, armor]).isOk = true := by
      decide +kernel
    cases compiles : compiler.compileAll .least false [weapon, armor] with
    | ok report => exact ⟨report, rfl⟩
    | error fault =>
        rw [compiles] at builds
        cases builds
  obtain ⟨report, compiles⟩ := compiled
  obtain ⟨other, finishes, first, second⟩ := compileAll_success_perm compiler .least .least .least
    false [weapon, armor] [armor, weapon] report rfl (.swap armor weapon []) ignores compiles
  refine ⟨report, other, compiles, finishes, first.trans ?_, second.trans ?_⟩
  · decide +kernel
  · decide +kernel

/-- Rules that notice suffixes: in front of the other table the key of `Sword` has none, behind
it has one. A finding of any severity counts where the first one stops the walk. -/
theorem compileAll_success_not_perm :
    let sheet (name : String) : Sheet :=
      ⟨name, [["Name@Lan", "Note"], ["string", "string"], ["", ""], ["", ""], ["Sword", ""]]⟩
    let failed (rules : TableRules) (names : List String) : Option (List String) :=
      match Compiler.compileAll ⟨{ Settings.standard with rules := [("Armor", rules)] }, .empty⟩
          .least false (names.map sheet) with
      | .ok report => some report.failedTables
      | .error _ => none
    let front := ["Armor", "Weapon"]
    let back := ["Weapon", "Armor"]
    let longest : TableRules := ⟨false, [⟨"Name", .maxLength 14, none, none⟩]⟩
    let shortest : TableRules := ⟨false, [⟨"Name", .minLength 15, none, none⟩]⟩
    let plain : TableRules := ⟨false, [⟨"Name", .pattern "D$", none, none⟩]⟩
    let guarded : TableRules :=
      ⟨false, [⟨"Note", .required, none, some "Name == \"LOC_NAME_SWORD\""⟩]⟩
    let hidden : TableRules :=
      ⟨true, [⟨"Name", .maxLength 14, some .warning, none⟩, ⟨"Note", .required, none, none⟩]⟩
    (failed longest front = some [] ∧ failed longest back = some ["Armor"]) ∧
    (failed shortest front = some ["Armor"] ∧ failed shortest back = some []) ∧
    (failed plain front = some [] ∧ failed plain back = some ["Armor"]) ∧
    (failed guarded front = some ["Armor"] ∧ failed guarded back = some []) ∧
    (failed hidden front = some ["Armor"] ∧ failed hidden back = some []) := by
  decide +kernel

end Compiler

end SheetCompiler

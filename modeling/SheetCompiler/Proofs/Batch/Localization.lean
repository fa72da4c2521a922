import Mathlib.Data.List.Flatten
import SheetCompiler.Batch
import SheetCompiler.Proofs.Pipeline.Localization

/-!
# Localization tables of batches

Each table of a batch gets the keys that were issued before it as reserved ones, whether
those tables succeed or not. So no key is issued twice, and the merged table renames none.
-/

set_option autoImplicit false

namespace SheetCompiler

namespace Compiler

variable {compiler : Compiler} {course : BatchCourse} {known : KnownTypes} {cancelled : Bool}
  {issued : List String} {sheet : Sheet} {sheets : List Sheet} {reports : List RunReport}

/-! ## Tables after each other -/

theorem exists_of_compileFrom_cons
    (compiles : compiler.compileFrom course known cancelled issued (sheet :: sheets) =
      .ok reports) :
    ∃ rules report rest,
      compiler.rulesFor sheet.name = .ok rules ∧
      report = (Pipeline.standard compiler.runOptions
        ⟨known, compiler.settings.localization, rules, issued⟩).runAmid (course 0) cancelled sheet ∧
      compiler.compileFrom course.later known report.state.cancelled
        (issued ++ issuedKeys report) sheets = .ok rest ∧
      reports = report :: rest := by
  unfold compileFrom pipelineFor at compiles
  cases read : compiler.rulesFor sheet.name with
  | error fault =>
      rw [read] at compiles
      cases compiles
  | ok rules =>
      rw [read] at compiles
      dsimp only [Except.map, bind, Except.bind] at compiles
      split at compiles
      · cases compiles
      · rename_i rest ran
        exact ⟨rules, _, rest, rfl, rfl, ran, (Except.ok.inj compiles).symm⟩

/-- The keys of a batch differ from each other and from those that were issued before. -/
theorem issuedKeys_compileFrom
    (compiles : compiler.compileFrom course known cancelled issued sheets = .ok reports) :
    (reports.flatMap issuedKeys).Nodup ∧ ∀ key ∈ reports.flatMap issuedKeys, key ∉ issued := by
  induction sheets generalizing course cancelled issued reports with
  | nil =>
      obtain rfl := Except.ok.inj compiles
      exact ⟨List.nodup_nil, nofun⟩
  | cons sheet sheets ih =>
      obtain ⟨rules, report, rest, -, ran, continues, rfl⟩ := exists_of_compileFrom_cons compiles
      have apart := Standard.isApart_runAmid ⟨known, compiler.settings.localization, rules, issued⟩
        compiler.runOptions (course 0) cancelled sheet
      rw [← ran] at apart
      obtain ⟨distinct, fresh⟩ := ih continues
      rw [List.flatMap_cons]
      constructor
      · refine List.nodup_append.mpr ⟨apart.sound.distinct, distinct, ?_⟩
        rintro key here _ later rfl
        exact fresh key later (List.mem_append_right _ here)
      · intro key listed taken
        rcases List.mem_append.mp listed with here | later
        · obtain ⟨entry, member, rfl⟩ := List.mem_map.mp here
          exact apart.unreserved entry member taken
        · exact fresh key later (List.mem_append_left _ taken)

/-- The reports of a batch are runs of the standard pipeline. -/
theorem exists_run_of_mem
    (compiles : compiler.compileFrom course known cancelled issued sheets = .ok reports)
    {report : RunReport} (member : report ∈ reports) :
    ∃ settings run stopped, ∃ sheet ∈ sheets,
      report = (Pipeline.standard compiler.runOptions settings).runAmid run stopped sheet := by
  induction sheets generalizing course cancelled issued reports with
  | nil =>
      obtain rfl := Except.ok.inj compiles
      cases member
  | cons sheet sheets ih =>
      obtain ⟨rules, first, rest, -, ran, continues, rfl⟩ := exists_of_compileFrom_cons compiles
      rcases List.mem_cons.mp member with rfl | later
      · exact ⟨_, course 0, cancelled, sheet, List.mem_cons_self, ran⟩
      · obtain ⟨settings, run, stopped, other, listed, same⟩ := ih continues later
        exact ⟨settings, run, stopped, other, List.mem_cons_of_mem _ listed, same⟩

theorem exists_compileFrom_of_compileAll {report : BatchReport}
    (compiles : compiler.compileAll course cancelled sheets = .ok report) :
    compiler.compileFrom course (compiler.known.insertAll (sheets.map (·.name))) cancelled []
      sheets = .ok report.results := by
  unfold compileAll at compiles
  dsimp only [bind, Except.bind] at compiles
  split at compiles
  · cases compiles
  · rename_i results ran
    obtain rfl := Except.ok.inj compiles
    exact ran

end Compiler

namespace BatchReport

variable {report : BatchReport}

/-! ## The merged table -/

theorem localization_eq_foldl (report : BatchReport) :
    report.localization =
      (report.successes.flatMap (·.state.localization.entries)).foldl
        (fun table entry => (table.insert entry.key entry.text entry.table entry.field).1)
        .empty := by
  rw [List.foldl_flatMap]
  rfl

theorem keys_nodup_successes (distinct : (report.results.flatMap Compiler.issuedKeys).Nodup) :
    ((report.successes.flatMap (·.state.localization.entries)).map (·.key)).Nodup := by
  rw [List.map_flatMap]
  exact (List.filter_sublist.flatMap Compiler.issuedKeys).nodup distinct

/-- Merging tables of different keys renames none of them. -/
theorem issues_localization (distinct : (report.results.flatMap Compiler.issuedKeys).Nodup) :
    LocalizationTable.Issues .empty (report.successes.flatMap (·.state.localization.entries))
      report.localization := by
  rw [localization_eq_foldl]
  exact LocalizationTable.issues_foldl_insert _ _ (fun _ _ => rfl) (keys_nodup_successes distinct)

end BatchReport

namespace Compiler

/-- The keys of all tables of a batch differ, whatever comes to its runs. The merged table has
the entries of the tables that succeed, as they are, and so it leads from each key that their
cells read to its text. -/
theorem localization_compileAll (compiler : Compiler) (course : BatchCourse) (cancelled : Bool)
    (sheets : List Sheet) (report : BatchReport)
    (compiles : compiler.compileAll course cancelled sheets = .ok report) :
    (report.results.flatMap issuedKeys).Nodup ∧
    report.localization.entries = report.successes.flatMap (·.state.localization.entries) ∧
    ∀ result ∈ report.successes, ∀ entry ∈ result.state.localization.entries,
      report.localization.get? entry.key = some entry.text ∧
      ∃ row column,
        result.state.sheet.cell? row column = some (Localization.keyMark ++ entry.key) := by
  have ran := exists_compileFrom_of_compileAll compiles
  have distinct := (issuedKeys_compileFrom ran).1
  have issues := BatchReport.issues_localization distinct
  refine ⟨distinct, issues.entries, fun result member entry listed => ⟨?_, ?_⟩⟩
  · refine (LocalizationTable.isSound_empty.issues issues).get?_key ?_
    rw [issues.entries]
    exact List.mem_flatMap.mpr ⟨result, member, listed⟩
  · obtain ⟨present, succeeds⟩ := List.mem_filter.mp member
    obtain ⟨settings, run, stopped, sheet, -, rfl⟩ := exists_run_of_mem ran present
    have calm := Pipeline.runAmid_eq_run_of_success succeeds
    rw [calm] at succeeds listed ⊢
    exact Standard.exists_marked_of_success succeeds listed

/-- Tables with the same text, the first of which takes too long after it has issued a key. The
third one fails for its names, and the last one is cancelled before its payload is written. -/
theorem localization_compileAll_sameText :
    let run : RunSettings := { RunSettings.standard with stageBudget := some 5 }
    let compiler : Compiler := ⟨{ Settings.standard with run }, .empty⟩
    let sheet (name : String) : Sheet :=
      ⟨name, [["Name@Lan"], ["string"], [""], [""], ["Sword"]]⟩
    let torn : Sheet :=
      ⟨"Torn", [["Name@Lan", "Name"], ["string", "int"], ["", ""], ["", ""], ["Sword", "1"]]⟩
    let slow : Clock := fun stage => .ofMilliseconds (if stage = .validate then 6 else 5)
    let course : BatchCourse := fun n =>
      match n with
      | 0 => .calm slow
      | 3 => ⟨.least, some (.beforeCall .postProcess 0)⟩
      | _ => .calm .least
    ∃ report,
      compiler.compileAll course false [sheet "Item", sheet "Armor", torn, sheet "Relic"] =
        .ok report ∧
      report.results.map RunReport.success = [false, true, false, false] ∧
      report.results.map RunReport.failedStage =
        [some .validate, none, some .validate, some .postProcess] ∧
      report.results.flatMap issuedKeys =
        ["NAME_SWORD", "NAME_SWORD_1", "NAME_SWORD_2", "NAME_SWORD_3"] ∧
      report.localization.entries.map (·.key) = ["NAME_SWORD_1"] ∧
      ∀ result ∈ report.successes, ∀ entry ∈ result.state.localization.entries,
        report.localization.get? entry.key = some entry.text := by
  intro run compiler sheet torn slow course
  have checked : (compiler.compileAll course false
      [sheet "Item", sheet "Armor", torn, sheet "Relic"]).toOption.any (fun report => decide (
        report.results.map RunReport.success = [false, true, false, false] ∧
        report.results.map RunReport.failedStage =
          [some .validate, none, some .validate, some .postProcess] ∧
        report.results.flatMap issuedKeys =
          ["NAME_SWORD", "NAME_SWORD_1", "NAME_SWORD_2", "NAME_SWORD_3"] ∧
        report.localization.entries.map (·.key) = ["NAME_SWORD_1"])) = true := by
    decide +kernel
  cases compiles : compiler.compileAll course false
      [sheet "Item", sheet "Armor", torn, sheet "Relic"] with
  | error fault =>
      rw [compiles] at checked
      cases checked
  | ok report =>
      rw [compiles] at checked
      obtain ⟨succeed, stages, keys, merged⟩ := of_decide_eq_true checked
      obtain ⟨-, -, resolves⟩ := localization_compileAll compiler course false _ report compiles
      exact ⟨report, rfl, succeed, stages, keys, merged, fun result member entry listed =>
        (resolves result member entry listed).1⟩

end Compiler

end SheetCompiler

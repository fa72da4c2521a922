import SheetCompiler.Proofs.Batch.Localization
import SheetCompiler.Proofs.CommandLine.Artifacts
import SheetCompiler.Proofs.Files.Tree

/-!
# What a compilation leaves behind

The command reads its tables, compiles them and writes their files one after the other. Two
tables may have files of one path, and then the later one stays.
-/

set_option autoImplicit false

namespace SheetCompiler

namespace CommandLine

open FileTree

variable {tree later : FileTree}

/-! ## Actions -/

/-- An action on files completes with a result and leaves a tree behind. -/
def Yields {α : Type} (action : ExceptT Failure (StateM FileTree) α) (tree : FileTree)
    (result : α) (later : FileTree) : Prop :=
  action.run.run tree = (.ok result, later)

section

variable {α β : Type} {action : ExceptT Failure (StateM FileTree) α}
  {next : α → ExceptT Failure (StateM FileTree) β} {result : β}

theorem yields_bind_iff :
    Yields (action >>= next) tree result later ↔
      ∃ first middle, Yields action tree first middle ∧ Yields (next first) middle result later := by
  unfold Yields
  rw [ExceptT.run_bind, StateT.run_bind]
  generalize action.run.run tree = ended
  constructor
  · intro ran
    match ended, ran with
    | (.ok first, middle), ran => exact ⟨first, middle, rfl, ran⟩
    | (.error _, _), ran => cases ran
  · rintro ⟨first, middle, rfl, ran⟩
    exact ran

theorem yields_pure_iff {value : β} :
    Yields (pure value) tree result later ↔ value = result ∧ tree = later := by
  constructor
  · intro ran
    obtain ⟨same, rfl⟩ := Prod.mk.inj ran
    exact ⟨Except.ok.inj same, rfl⟩
  · rintro ⟨rfl, rfl⟩
    rfl

theorem not_yields_throw {failure : Failure} : ¬ Yields (throw failure) tree result later :=
  fun ran => nomatch (Prod.mk.inj ran).1

theorem yields_attempt_iff {ε : Type} {failure : ε → Failure} {step : StateM FileTree (Except ε β)} :
    Yields (attempt failure step) tree result later ↔ step.run tree = (.ok result, later) := by
  change (do return (← step).mapError failure : StateM FileTree (Except Failure β)).run tree = _ ↔ _
  rw [StateT.run_bind]
  generalize step.run tree = ended
  constructor
  · intro ran
    match ended, ran with
    | (.ok value, middle), ran =>
        obtain ⟨rfl, rfl⟩ := yields_pure_iff.mp ran
        rfl
    | (.error _, _), ran => cases (Prod.mk.inj ran).1
  · rintro rfl
    rfl

end

/-! ## Tables -/

theorem name_of_ofBytes {name : String} {delimiter : UInt8} {encoding : Encoding}
    {bytes : List UInt8} {sheet : Sheet}
    (reads : Sheet.ofBytes name delimiter encoding bytes = .ok sheet) : sheet.name = name := by
  unfold Sheet.ofBytes at reads
  cases rows : Sheet.decodeRows name encoding 1 (Delimited.read delimiter bytes) with
  | error fault =>
      rw [rows] at reads
      cases reads
  | ok decoded =>
      rw [rows] at reads
      obtain rfl := Except.ok.inj reads
      rfl

theorem stem_of_load {encoding : Encoding} {path : Path} {sheet : Sheet}
    (loads : (TableFile.load encoding path : StateM FileTree _).run tree = (.ok sheet, later)) :
    path.stem? = some sheet.name := by
  unfold TableFile.load TableFile.tableName at loads
  cases stem : path.stem? with
  | none =>
      rw [stem] at loads
      cases (Prod.mk.inj loads).1
  | some name =>
      rw [stem] at loads
      dsimp only at loads
      rw [StateT.run_bind] at loads
      generalize (Files.read path : StateM FileTree _).run tree = ended at loads
      match ended, loads with
      | (.error _, _), loads => cases (Prod.mk.inj loads).1
      | (.ok bytes, middle), loads =>
          cases read : Sheet.ofBytes name (TableFile.delimiter path) encoding bytes with
          | error fault =>
              dsimp only [bind] at loads
              rw [read] at loads
              cases (Prod.mk.inj loads).1
          | ok found =>
              dsimp only [bind] at loads
              rw [read] at loads
              obtain rfl := Except.ok.inj (Prod.mk.inj loads).1
              rw [name_of_ofBytes read]

/-- The names of the tables that are read are stems of files. -/
theorem slash_not_mem_of_sheetsOf {encoding : Encoding} {paths : List Path} {sheets : List Sheet}
    (reads : Yields (sheetsOf encoding paths) tree sheets later) :
    ∀ sheet ∈ sheets, '/' ∉ sheet.name.toList := by
  induction paths generalizing tree sheets later with
  | nil =>
      obtain ⟨rfl, -⟩ := yields_pure_iff.mp reads
      exact nofun
  | cons path paths ih =>
      obtain ⟨first, middle, loads, reads⟩ := yields_bind_iff.mp reads
      obtain ⟨rest, last, others, ends⟩ := yields_bind_iff.mp reads
      obtain ⟨rfl, -⟩ := yields_pure_iff.mp ends
      have stem := stem_of_load (yields_attempt_iff.mp loads)
      exact List.forall_mem_cons.mpr ⟨Path.slash_not_mem_stem stem, ih others⟩

variable {clocks : Clocks} {options : CompileOptions} {report : BatchReport}

theorem exists_sheets_of_batch (compiles : Yields (batch clocks options) tree report later) :
    ∃ (compiler : Compiler) (sheets : List Sheet),
      (∀ sheet ∈ sheets, '/' ∉ sheet.name.toList) ∧
      compiler.compileAll (.calm clocks) false sheets = .ok report := by
  unfold batch at compiles
  obtain ⟨settings, _, -, compiles⟩ := yields_bind_iff.mp compiles
  obtain ⟨encoding, _, -, compiles⟩ := yields_bind_iff.mp compiles
  obtain ⟨paths, _, -, compiles⟩ := yields_bind_iff.mp compiles
  split at compiles
  · obtain ⟨_, _, stops, -⟩ := yields_bind_iff.mp compiles
    exact absurd stops not_yields_throw
  · obtain ⟨sheets, _, reads, compiles⟩ := yields_bind_iff.mp compiles
    obtain ⟨known, _, -, compiles⟩ := yields_bind_iff.mp compiles
    dsimp only at compiles
    split at compiles
    · exact absurd compiles not_yields_throw
    · rename_i compiled
      obtain ⟨rfl, -⟩ := yields_pure_iff.mp compiles
      exact ⟨_, sheets, slash_not_mem_of_sheetsOf reads, compiled⟩

/-- A compilation completes when its tables are compiled, all files are written, and neither
a table nor a cycle has failed. -/
theorem yields_compile_iff :
    Yields (compile clocks options) tree () later ↔
      ∃ report middle, Yields (batch clocks options) tree report middle ∧
        Artifact.WritesAll (report.artifacts options.output options.writesSchemas) middle later ∧
        report.failedTables = [] ∧ report.cycleErrors = [] := by
  unfold compile
  have complete {report : BatchReport} {middle : FileTree} :
      Yields (if !(report.failedTables.isEmpty && report.cycleErrors.isEmpty) then
          throw (.tables report.failedTables report.cycleErrors.length) else pure ()) middle ()
        later ↔
      middle = later ∧ report.failedTables = [] ∧ report.cycleErrors = [] := by
    cases failed : report.failedTables with
    | cons table rest => exact ⟨fun ran => absurd ran not_yields_throw, fun ends => nomatch ends.2.1⟩
    | nil =>
        cases cyclic : report.cycleErrors with
        | cons cycle rest =>
            exact ⟨fun ran => absurd ran not_yields_throw, fun ends => nomatch ends.2.2⟩
        | nil =>
            refine yields_pure_iff.trans ⟨fun ends => ⟨ends.2, rfl, rfl⟩, fun ends => ⟨rfl, ends.1⟩⟩
  constructor
  · intro compiles
    obtain ⟨report, middle, batched, compiles⟩ := yields_bind_iff.mp compiles
    obtain ⟨_, last, writes, ends⟩ := yields_bind_iff.mp compiles
    obtain ⟨rfl, clean⟩ := complete.mp ends
    exact ⟨report, middle, batched, yields_attempt_iff.mp writes, clean⟩
  · rintro ⟨report, middle, batched, writes, clean⟩
    refine yields_bind_iff.mpr ⟨report, middle, batched, ?_⟩
    exact yields_bind_iff.mpr ⟨(), later, yields_attempt_iff.mpr writes, complete.mpr ⟨rfl, clean⟩⟩

theorem run_compile {arguments : List String}
    (asks : request arguments = .command (.compile options)) :
    (run clocks arguments : StateM FileTree Outcome).run tree =
      (match ((compile clocks options : ExceptT Failure (StateM FileTree) Unit).run.run tree) with
      | (.ok (), later) => (⟨0, "", none⟩, later)
      | (.error failure, later) => (⟨1, "", some failure.message⟩, later)) := by
  unfold run
  rw [asks]
  dsimp only [runCommand]
  rw [StateT.run_bind, ExceptT.run_bind, StateT.run_bind]
  generalize (compile clocks options : ExceptT Failure (StateM FileTree) Unit).run.run tree = ended
  match ended with
  | (.ok (), _) => rfl
  | (.error _, _) => rfl

theorem yields_of_exitCode {arguments : List String}
    (asks : request arguments = .command (.compile options))
    (exits : ((run clocks arguments : StateM FileTree Outcome).run tree).1.exitCode = 0) :
    Yields (compile clocks options) tree ()
      ((run clocks arguments : StateM FileTree Outcome).run tree).2 := by
  rw [run_compile asks] at exits ⊢
  unfold Yields
  generalize (compile clocks options : ExceptT Failure (StateM FileTree) Unit).run.run tree = ended
    at exits ⊢
  match ended, exits with
  | (.ok (), _), _ => rfl
  | (.error _, _), exits => cases exits

/-- A command whose tables compile into files that can be written exits without a failure. -/
theorem run_of_report {arguments : List String} {artifacts : List Artifact}
    (asks : request arguments = .command (.compile options))
    (compiles : Yields (batch clocks options) tree report tree)
    (lists : report.artifacts options.output options.writesSchemas = artifacts)
    (failed : report.failedTables = []) (cyclic : report.cycleErrors = [])
    (writes : Artifact.WritesAll artifacts tree later) :
    (run clocks arguments : StateM FileTree Outcome).run tree = (⟨0, "", none⟩, later) := by
  have completes : Yields (compile clocks options) tree () later :=
    yields_compile_iff.mpr ⟨report, tree, compiles, lists ▸ writes, failed, cyclic⟩
  rw [run_compile asks, completes]

/-! ## Files of a batch -/

theorem named_of_batch (compiles : Yields (batch clocks options) tree report later)
    {result : RunReport} (member : result ∈ report.results) (succeeds : result.success = true) :
    result.IsNamed := by
  obtain ⟨compiler, sheets, single, compiled⟩ := exists_sheets_of_batch compiles
  obtain ⟨settings, run, stopped, sheet, listed, rfl⟩ :=
    Compiler.exists_run_of_mem (Compiler.exists_compileFrom_of_compileAll compiled) member
  have calm := Pipeline.runAmid_eq_run_of_success succeeds
  rw [calm] at succeeds ⊢
  exact Standard.isNamed_run (single sheet listed) succeeds

/-- A file of a table stays unless a later table writes it otherwise. -/
theorem read_of_artifact {output : Path} {withSchemas : Bool} {before others : List RunReport}
    {result : RunReport} {inner : String} {bytes : List UInt8}
    (wrote : Artifact.WritesAll (report.artifacts output withSchemas) tree later)
    (order : report.successes = before ++ result :: others)
    (named : ∀ other ∈ report.successes, other.IsNamed)
    (listed : ⟨output.join inner, bytes⟩ ∈ result.artifacts output withSchemas)
    (plain : (Path.mk inner).IsPlain) (apart : inner ≠ BatchReport.localizationFile)
    (alike : ∀ other ∈ result :: others, ∀ written, other.Output inner written → written = bytes) :
    later.read (output.join inner) = .ok bytes := by
  obtain ⟨front, back, split, origin⟩ := BatchReport.exists_split_of_mem order listed
  rw [split] at wrote
  have ordered : ∀ other ∈ result :: others, other ∈ report.successes := fun other member =>
    order ▸ List.mem_append_right before member
  have agree : ∀ artifact ∈ back,
      artifact.place tree.working = Artifact.place tree.working ⟨output.join inner, bytes⟩ →
        artifact.bytes = bytes := by
    intro artifact member same
    rcases origin artifact member with ⟨other, inside, written⟩ | ⟨text, rfl⟩
    · obtain ⟨path, content, produced, rfl⟩ := RunReport.exists_output written
      have lower := RunReport.isPlain_of_output (named other (ordered other inside)) produced
      obtain rfl := Artifact.eq_of_place_eq lower plain same
      exact alike other inside content produced
    · have text := Artifact.eq_of_place_eq BatchReport.isPlain_localizationFile plain same
      exact absurd text.symm apart
  have stays := Artifact.read_of_writesAll wrote agree
  exact stays

theorem success_of_failedTables (none : report.failedTables = []) :
    ∀ result ∈ report.results, result.success = true := by
  intro result member
  unfold BatchReport.failedTables at none
  rw [List.map_eq_nil_iff, List.filter_eq_nil_iff] at none
  simpa using none result member

/-- The files of a table stand below the output directory, but for those that a later table
of the batch writes otherwise: a payload is replaced by that of a table of the same name, and
a generated file by one of the same path. -/
structure Survives (output : Path) (result : RunReport) (others : List RunReport)
    (tree : FileTree) : Prop where
  payload :
    (∀ other ∈ others, other.table = result.table → other.state.payload = result.state.payload) →
      tree.read (output.join (result.table ++ ".bin")) = .ok result.state.payload
  code : ∀ file ∈ result.state.files,
    (∀ other ∈ others, ∀ twin ∈ other.state.files, twin.path = file.path →
      twin.contents = file.contents) →
      tree.read (output.join file.path) = .ok (Text.utf8 file.contents)

theorem survives_of_writesAll {output : Path} {withSchemas : Bool} {before others : List RunReport}
    {result : RunReport}
    (wrote : Artifact.WritesAll (report.artifacts output withSchemas) tree later)
    (order : report.successes = before ++ result :: others)
    (named : ∀ other ∈ report.successes, other.IsNamed) :
    Survives output result others later := by
  have mine : result.IsNamed := named result (order ▸ List.mem_append_right _ List.mem_cons_self)
  have ordered : ∀ other ∈ result :: others, other.IsNamed := fun other member =>
    named other (order ▸ List.mem_append_right before member)
  constructor
  · intro alike
    have apart : result.table ++ ".bin" ≠ "localization" ++ ".csv" :=
      RunReport.ne_of_endings (by decide) (by decide) (by decide)
    refine read_of_artifact wrote order named List.mem_cons_self
      (RunReport.isPlain_of_output mine .payload) apart fun other member bytes written => ?_
    obtain ⟨same, rfl⟩ := RunReport.eq_payload_of_output (ordered other member) written
    rcases List.mem_cons.mp member with rfl | after
    · rfl
    · exact alike other after same
  · intro file listed alike
    have apart : file.path ≠ "localization" ++ ".csv" := by
      obtain ⟨target, path⟩ := mine.path file listed
      rw [path]
      exact RunReport.ne_of_endings (by decide) (by decide) (by decide)
    have produced : Artifact.ofText (output.join file.path) file.contents ∈
        result.artifacts output withSchemas :=
      List.mem_cons_of_mem _ (List.mem_append_left _ (List.mem_map.mpr ⟨file, listed, rfl⟩))
    refine read_of_artifact wrote order named produced
      (RunReport.isPlain_of_output mine (.code listed)) apart fun other member bytes written => ?_
    obtain ⟨twin, twinned, same, rfl⟩ := RunReport.exists_code_of_output mine listed written
    rcases List.mem_cons.mp member with rfl | after
    · rw [List.inj_on_of_nodup_map mine.distinct twinned listed same]
    · rw [alike other after twin twinned same]

/-! ## Tables that meet -/

/-- A table of one field with one record. -/
def alikeTable (field number : String) : FileNode :=
  .file (Text.utf8 (field ++ "@Client\nint\n\"\"\n\"\"\n" ++ number ++ "\n"))

/-- Three tables whose names are alike in snake case, and two of them whose names are the same. -/
def alikeTables : FileTree :=
  ⟨["home"],
    [(["home", "in"], .directory), (["home", "more"], .directory),
      (["home", "in", "Foo.csv"], alikeTable "Id" "1"),
      (["home", "in", "foo.csv"], alikeTable "Key" "2"),
      (["home", "more", "foo.csv"], alikeTable "Code" "3")]⟩

def alikeArguments : List String := ["compile", "-i", "in", "more", "-o", "out"]

def alikeOptions : CompileOptions := ⟨[⟨"in"⟩, ⟨"more"⟩], ⟨"out"⟩, none, none, [], none, false⟩

/-- Other paths to the tables, and an output directory beside the working directory. -/
def rootedArguments : List String :=
  ["compile", "-i", "/home/in", "../home/more", "-o", "/home/../build"]

def rootedOptions : CompileOptions :=
  ⟨[⟨"/home/in"⟩, ⟨"../home/more"⟩], ⟨"/home/../build"⟩, none, none, [], none, false⟩

def alikeCode (table field : String) : CodeFile where
  path := "client/foo.rs"
  contents :=
    "// Generated by tabledef from table '" ++ table ++ "'. Do not edit.\n\n" ++
      "#[derive(Debug, Clone, PartialEq)]\npub struct Foo \x7b\n    pub " ++ field ++
      ": i32,\n\x7d\n"

/-- The names, the payloads and the files of the tables. -/
def alikeRuns : List (String × List UInt8 × CodeFile) :=
  [("Foo", [3, 70, 111, 111, 0, 1, 2, 73, 100, 0, 2, 1, 1, 2, 2], alikeCode "Foo" "id"),
    ("foo", [3, 102, 111, 111, 0, 1, 3, 75, 101, 121, 0, 2, 1, 1, 2, 4], alikeCode "foo" "key"),
    ("foo", [3, 102, 111, 111, 0, 1, 4, 67, 111, 100, 101, 0, 2, 1, 1, 2, 6],
      alikeCode "foo" "code")]

def alikeArtifacts (output : Path) : List Artifact :=
  alikeRuns.flatMap fun (table, payload, file) =>
    [⟨output.join (table ++ ".bin"), payload⟩, .ofText (output.join file.path) file.contents]

/-- What the tables compile to, by whatever paths they are read. -/
structure CompileAlike (options : CompileOptions) (report : BatchReport) : Prop where
  artifacts : report.artifacts options.output false = alikeArtifacts options.output
  failed : report.failedTables = []
  cyclic : report.cycleErrors = []
  runs : ∀ run ∈ alikeRuns, ∃ result ∈ report.results,
    result.table = run.1 ∧ result.state.payload = run.2.1 ∧ result.state.files = [run.2.2]

theorem exists_compileAlike {options : CompileOptions}
    (checked : (match (batch .least options : ExceptT Failure (StateM FileTree) _).run.run
        alikeTables with
      | (.ok report, after) => decide (after = alikeTables ∧
          report.artifacts options.output false = alikeArtifacts options.output ∧
          report.failedTables = [] ∧ report.cycleErrors = [] ∧
          ∀ run ∈ alikeRuns, ∃ result ∈ report.results,
            result.table = run.1 ∧ result.state.payload = run.2.1 ∧
              result.state.files = [run.2.2])
      | (.error _, _) => false) = true) :
    ∃ report, Yields (batch .least options) alikeTables report alikeTables ∧
      CompileAlike options report := by
  unfold Yields
  generalize (batch .least options : ExceptT Failure (StateM FileTree) _).run.run alikeTables = ended
    at checked ⊢
  match ended, checked with
  | (.ok report, after), checked =>
      obtain ⟨rfl, artifacts, failed, cyclic, runs⟩ := of_decide_eq_true checked
      exact ⟨report, rfl, artifacts, failed, cyclic, runs⟩
  | (.error _, _), checked => cases checked

theorem exists_compileAlike_alikeOptions :
    ∃ report, Yields (batch .least alikeOptions) alikeTables report alikeTables ∧
      CompileAlike alikeOptions report :=
  exists_compileAlike (by decide +kernel)

theorem exists_compileAlike_rootedOptions :
    ∃ report, Yields (batch .least rootedOptions) alikeTables report alikeTables ∧
      CompileAlike rootedOptions report :=
  exists_compileAlike (by decide +kernel)

/-- The tree with the files of all tables in it. -/
def alikeOutput (output : Path) : FileTree :=
  ((Artifact.writeAll (alikeArtifacts output) : StateM FileTree _).run alikeTables).2

theorem writesAll_alikeTables {output : Path}
    (ends : ((Artifact.writeAll (alikeArtifacts output) : StateM FileTree _).run
      alikeTables).1.isOk = true) :
    Artifact.WritesAll (alikeArtifacts output) alikeTables (alikeOutput output) := by
  unfold Artifact.WritesAll alikeOutput
  generalize (Artifact.writeAll _ : StateM FileTree _).run alikeTables = ended at ends
  match ended, ends with
  | (.ok (), _), _ => rfl
  | (.error _, _), ends => cases ends

theorem writesAll_alikeOptions : Artifact.WritesAll (alikeArtifacts alikeOptions.output)
    alikeTables (alikeOutput alikeOptions.output) :=
  writesAll_alikeTables (by decide +kernel)

theorem run_alikeTables :
    (run .least alikeArguments : StateM FileTree Outcome).run alikeTables =
      (⟨0, "", none⟩, alikeOutput alikeOptions.output) := by
  obtain ⟨report, compiles, alike⟩ := exists_compileAlike_alikeOptions
  exact run_of_report (by decide +kernel) compiles alike.artifacts alike.failed alike.cyclic
    writesAll_alikeOptions

theorem run_rooted :
    (run .least rootedArguments : StateM FileTree Outcome).run alikeTables =
      (⟨0, "", none⟩, alikeOutput rootedOptions.output) := by
  obtain ⟨report, compiles, alike⟩ := exists_compileAlike_rootedOptions
  exact run_of_report (by decide +kernel) compiles alike.artifacts alike.failed alike.cyclic
    (writesAll_alikeTables (by decide +kernel))

/-- What an artifact holds is read where no later one leads. -/
theorem read_alikeOutput (n : Nat) (artifact : Artifact)
    (here : (alikeArtifacts alikeOptions.output)[n]? = some artifact)
    (last : ∀ other ∈ (alikeArtifacts alikeOptions.output).drop (n + 1),
      other.place ["home"] = artifact.place ["home"] → other.bytes = artifact.bytes) :
    (alikeOutput alikeOptions.output).read artifact.path = .ok artifact.bytes := by
  have wrote := writesAll_alikeOptions
  obtain ⟨inside, rfl⟩ := List.getElem?_eq_some_iff.mp here
  rw [← List.take_append_drop n (alikeArtifacts _), List.drop_eq_getElem_cons inside] at wrote
  exact Artifact.read_of_writesAll wrote last

theorem read_payload_alikeOutput :
    (alikeOutput alikeOptions.output).read (alikeOptions.output.join ("foo" ++ ".bin")) =
      .ok [3, 102, 111, 111, 0, 1, 4, 67, 111, 100, 101, 0, 2, 1, 1, 2, 6] :=
  read_alikeOutput 4 ⟨alikeOptions.output.join ("foo" ++ ".bin"), _⟩ (by decide +kernel)
    (by decide +kernel)

theorem read_code_alikeOutput :
    (alikeOutput alikeOptions.output).read (alikeOptions.output.join "client/foo.rs") =
      .ok (Text.utf8 (alikeCode "foo" "code").contents) :=
  read_alikeOutput 5 ⟨alikeOptions.output.join "client/foo.rs", _⟩ (by decide +kernel)
    (by decide +kernel)

/-! ## Surviving files -/

/-- A compilation that exits without a failure has compiled all of its tables, and every file
of theirs survives unless a later table replaces it. -/
theorem artifacts_survive {arguments : List String}
    (asks : request arguments = .command (.compile options))
    (exits : ((run clocks arguments : StateM FileTree Outcome).run tree).1.exitCode = 0) :
    ∃ report, ((batch clocks options : ExceptT Failure (StateM FileTree) BatchReport).run.run
        tree).1 = .ok report ∧
      (∀ result ∈ report.results, result.success = true) ∧
      ∀ before result others, report.results = before ++ result :: others →
        Survives options.output result others
          ((run clocks arguments : StateM FileTree Outcome).run tree).2 := by
  obtain ⟨report, read, compiles, wrote, failed, -⟩ :=
    yields_compile_iff.mp (yields_of_exitCode asks exits)
  have succeed := success_of_failedTables failed
  have successes : report.successes = report.results := List.filter_eq_self.mpr succeed
  refine ⟨report, congrArg Prod.fst compiles, succeed, fun before result others order => ?_⟩
  refine survives_of_writesAll wrote (successes.trans order) fun other member => ?_
  rw [successes] at member
  exact named_of_batch compiles member (succeed other member)

theorem artifacts_survive_alikeTables :
    request rootedArguments = .command (.compile rootedOptions) ∧
    ((run .least rootedArguments : StateM FileTree Outcome).run alikeTables).1.exitCode = 0 ∧
    ∃ report, ((batch .least rootedOptions : ExceptT Failure (StateM FileTree) BatchReport).run.run
        alikeTables).1 = .ok report ∧
      (∀ result ∈ report.results, result.success = true) ∧
      ∀ before result others, report.results = before ++ result :: others →
        Survives rootedOptions.output result others
          ((run .least rootedArguments : StateM FileTree Outcome).run alikeTables).2 := by
  have asks : request rootedArguments = .command (.compile rootedOptions) := by decide +kernel
  have exits :
      ((run .least rootedArguments : StateM FileTree Outcome).run alikeTables).1.exitCode = 0 := by
    rw [run_rooted]
  exact ⟨asks, exits, artifacts_survive asks exits⟩

/-- A payload is gone when another table has its name, and a generated file when another one
has its path, and nothing is reported. -/
theorem artifacts_replaced_alikeTables :
    let ended := (run .least alikeArguments : StateM FileTree Outcome).run alikeTables
    ended.1.exitCode = 0 ∧
    ∃ report, ((batch .least alikeOptions : ExceptT Failure (StateM FileTree) BatchReport).run.run
        alikeTables).1 = .ok report ∧
      (∀ result ∈ report.results, result.success = true) ∧
      (∃ result ∈ report.results,
        ended.2.read (alikeOptions.output.join (result.table ++ ".bin")) ≠
          .ok result.state.payload) ∧
      ∃ result ∈ report.results, ∃ file ∈ result.state.files,
        ended.2.read (alikeOptions.output.join file.path) ≠ .ok (Text.utf8 file.contents) := by
  obtain ⟨report, compiles, alike⟩ := exists_compileAlike_alikeOptions
  intro ended
  have same : ended = (⟨0, "", none⟩, alikeOutput alikeOptions.output) := run_alikeTables
  clear_value ended
  have output : ended.2 = alikeOutput alikeOptions.output := by rw [same]
  refine ⟨by rw [same], report, congrArg Prod.fst compiles, success_of_failedTables alike.failed, ?_, ?_⟩
  · obtain ⟨result, member, table, payload, -⟩ := alike.runs
      ("foo", [3, 102, 111, 111, 0, 1, 3, 75, 101, 121, 0, 2, 1, 1, 2, 4], alikeCode "foo" "key")
      (by decide +kernel)
    refine ⟨result, member, fun kept => ?_⟩
    rw [output, table, payload, read_payload_alikeOutput] at kept
    cases kept
  · obtain ⟨result, member, -, -, files⟩ := alike.runs
      ("Foo", [3, 70, 111, 111, 0, 1, 2, 73, 100, 0, 2, 1, 1, 2, 2], alikeCode "Foo" "id")
      (by decide +kernel)
    have own : alikeCode "Foo" "id" ∈ result.state.files := files ▸ List.mem_singleton_self _
    refine ⟨result, member, alikeCode "Foo" "id", own, fun kept => ?_⟩
    have path : (alikeCode "Foo" "id").path = "client/foo.rs" := rfl
    rw [output, path, read_code_alikeOutput] at kept
    have apart : Text.utf8 (alikeCode "foo" "code").contents ≠
        Text.utf8 (alikeCode "Foo" "id").contents := by
      decide +kernel
    exact apart (Except.ok.inj kept)

end CommandLine

end SheetCompiler

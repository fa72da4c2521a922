import SheetCompiler.CommandLine
import SheetCompiler.Proofs.Files.Path
import SheetCompiler.Proofs.Pipeline.GeneratedCode

/-!
# Artifacts of tables

Where the files of a table stand below the output directory. The ending of a path tells
what the file holds, so only payloads of tables of one name and generated files of one path
can meet in one place.
-/

set_option autoImplicit false

namespace SheetCompiler

/-! ## Generated files -/

namespace RunState

variable {files placed : List CodeFile} {file : CodeFile}

theorem paths_foldl_placeFile (distinct : (placed.map (·.path)).Nodup) :
    ((files.foldl placeFile placed).map (·.path)).Nodup := by
  induction files generalizing placed with
  | nil => exact distinct
  | cons first files ih =>
      rw [List.foldl_cons]
      apply ih
      rw [placeFile, List.map_append]
      refine List.nodup_append.mpr
        ⟨distinct.sublist (List.filter_sublist.map _), List.pairwise_singleton _ _, ?_⟩
      rintro path former _ last rfl
      obtain ⟨other, member, same⟩ := List.mem_map.mp former
      have apart := (List.mem_filter.mp member).2
      rw [same, List.mem_singleton.mp last] at apart
      simp at apart

end RunState

namespace Standard

variable {settings : StandardSettings} {options : RunOptions} {clock : Clock} {cancelled : Bool}
  {sheet : Sheet}

theorem table_run (pipeline : Pipeline) : (pipeline.run clock cancelled sheet).table = sheet.name := by
  unfold Pipeline.run
  dsimp only
  split <;> rfl

end Standard

namespace RunReport

/-- The table has a single name, and its generated files are named after it, each for a
target of its own. -/
structure IsNamed (report : RunReport) : Prop where
  single : '/' ∉ report.table.toList
  path : ∀ file ∈ report.state.files, ∃ target : Target,
    file.path = target.name ++ "/" ++ Text.Casing.snake report.table ++ ".rs"
  distinct : (report.state.files.map (·.path)).Nodup

end RunReport

namespace Standard

variable {settings : StandardSettings} {options : RunOptions} {clock : Clock} {cancelled : Bool}
  {sheet : Sheet}

theorem isNamed_run (single : '/' ∉ sheet.name.toList)
    (succeeds : ((Pipeline.standard options settings).run clock cancelled sheet).success = true) :
    ((Pipeline.standard options settings).run clock cancelled sheet).IsNamed := by
  obtain ⟨schema, diagnostics, moved, resolves, -, -, leaves⟩ := exists_leaves_of_success succeeds
  have name : schema.name = (cleaned sheet).name := Schema.name_ofSheet resolves
  refine ⟨table_run _ ▸ single, fun file listed => ?_, ?_⟩
  · rw [leaves.files] at listed
    rcases RunState.mem_foldl_placeFile listed with none | generated
    · cases none
    · obtain ⟨target, -, made⟩ := List.mem_filterMap.mp generated
      unfold CodeFile.ofTarget? at made
      dsimp only at made
      split at made
      · cases made
      · obtain rfl := Option.some.inj made
        refine ⟨target, ?_⟩
        rw [table_run]
        change CodeFile.pathOf schema target = _
        rw [CodeFile.pathOf, name]
        rfl
  · rw [leaves.files]
    exact RunState.paths_foldl_placeFile List.nodup_nil

end Standard

/-! ## Outputs -/

namespace RunReport

variable {report : RunReport} {output : Path} {inner : String} {bytes : List UInt8}

/-- What a table leaves behind, by the path below the output directory. -/
inductive Output (report : RunReport) : String → List UInt8 → Prop where
  | payload : Output report (report.table ++ ".bin") report.state.payload
  | code {file} (listed : file ∈ report.state.files) :
      Output report file.path (Text.utf8 file.contents)
  | schema (schema : Schema) : Output report (report.table ++ ".schema.json")
      (Text.utf8 schema.toJson)

theorem exists_output {withSchema : Bool} {artifact : Artifact}
    (listed : artifact ∈ report.artifacts output withSchema) :
    ∃ inner bytes, report.Output inner bytes ∧ artifact = ⟨output.join inner, bytes⟩ := by
  rcases List.mem_cons.mp listed with rfl | rest
  · exact ⟨_, _, .payload, rfl⟩
  · rcases List.mem_append.mp rest with code | schema
    · obtain ⟨file, member, rfl⟩ := List.mem_map.mp code
      exact ⟨_, _, .code member, rfl⟩
    · split at schema
      · split at schema
        · obtain rfl := List.mem_singleton.mp schema
          exact ⟨_, _, .schema _, rfl⟩
        · cases schema
      · cases schema

/-! ## Names of files -/

theorem not_isSeparator_of_mem {cs : List Char} (single : '/' ∉ cs) :
    ∀ c ∈ cs, Path.isSeparator c = false := by
  intro c member
  refine beq_eq_false_iff_ne.mpr ?_
  rintro rfl
  exact single member

theorem isPlain_ending {name ending : String} (single : '/' ∉ name.toList)
    (free : '/' ∉ ending.toList) (long : 2 < ending.length) : (Path.mk (name ++ ending)).IsPlain := by
  have plain : '/' ∉ (name ++ ending).toList := by
    rw [String.toList_append]
    exact fun member => (List.mem_append.mp member).elim single free
  intro piece listed
  rw [Path.pieces, Text.pieces_eq_singleton (not_isSeparator_of_mem plain)] at listed
  obtain rfl := List.mem_singleton.mp listed
  apply Path.isName_of_length
  rw [String.toList_append, List.length_append, String.length_toList, String.length_toList]
  omega

theorem isPlain_code (target : Target) (name : String) (single : '/' ∉ name.toList) :
    (Path.mk (target.name ++ "/" ++ name ++ ".rs")).IsPlain := by
  have targeted : '/' ∉ target.name.toList := by cases target <;> decide
  have whole : (target.name ++ "/" ++ name ++ ".rs").toList =
      target.name.toList ++ '/' :: (name ++ ".rs").toList := by
    simp
  intro piece listed
  rw [Path.pieces, whole,
    Text.pieces_append_cons (not_isSeparator_of_mem targeted) rfl] at listed
  rcases List.mem_cons.mp listed with rfl | last
  · apply Path.isName_of_length
    cases target <;> decide
  · exact isPlain_ending single (by decide) (by decide) piece last

/-- All paths of a table lead down from the output directory. -/
theorem isPlain_of_output (named : report.IsNamed)
    (output : report.Output inner bytes) : (Path.mk inner).IsPlain := by
  cases output with
  | payload => exact isPlain_ending named.single (by decide) (by decide)
  | code listed =>
      obtain ⟨target, path⟩ := named.path _ listed
      rw [path]
      exact isPlain_code target _ (Text.Casing.slash_not_mem_snake report.table)
  | schema => exact isPlain_ending named.single (by decide) (by decide)

/-! ## Endings -/

/-- Texts with different endings differ. -/
theorem ne_of_endings {name other ending another : String}
    (differ : ending.toList.reverse.take 2 ≠ another.toList.reverse.take 2)
    (long : 2 ≤ ending.length) (longToo : 2 ≤ another.length) : name ++ ending ≠ other ++ another := by
  intro same
  have ends := congrArg (fun text => text.toList.reverse.take 2) same
  simp only [String.toList_append, List.reverse_append] at ends
  rw [List.take_append_of_le_length (by rwa [List.length_reverse, String.length_toList]),
    List.take_append_of_le_length (by rwa [List.length_reverse, String.length_toList])] at ends
  exact differ ends

/-- Only the payload of a table of the same name takes the place of a payload. -/
theorem eq_payload_of_output {table : String} (named : report.IsNamed)
    (output : report.Output (table ++ ".bin") bytes) :
    report.table = table ∧ bytes = report.state.payload := by
  generalize path : table ++ ".bin" = inner at output
  cases output with
  | payload => exact ⟨(String.append_left_inj ".bin").mp path.symm, rfl⟩
  | code listed =>
      obtain ⟨target, is⟩ := named.path _ listed
      exact absurd (path.trans is) (ne_of_endings (by decide) (by decide) (by decide))
  | schema => exact absurd path (ne_of_endings (by decide) (by decide) (by decide))

/-- Only a generated file of the same path takes the place of one. -/
theorem exists_code_of_output {other : RunReport} {file : CodeFile} (named : other.IsNamed)
    (listed : file ∈ other.state.files) (output : report.Output file.path bytes) :
    ∃ twin ∈ report.state.files, twin.path = file.path ∧ bytes = Text.utf8 twin.contents := by
  obtain ⟨target, is⟩ := named.path _ listed
  generalize path : file.path = inner at output
  cases output with
  | payload =>
      exact absurd (path.symm.trans is) (ne_of_endings (by decide) (by decide) (by decide))
  | code twin => exact ⟨_, twin, rfl, rfl⟩
  | schema =>
      exact absurd (path.symm.trans is) (ne_of_endings (by decide) (by decide) (by decide))

end RunReport

namespace BatchReport

variable {report : BatchReport} {output : Path} {withSchemas : Bool}

theorem isPlain_localizationFile : (Path.mk localizationFile).IsPlain := by
  have whole : localizationFile = "localization" ++ ".csv" := rfl
  rw [whole]
  exact RunReport.isPlain_ending (by decide) (by decide) (by decide)

/-- Behind a file of one table come files of this table and of those after it, and then the
localized texts. -/
theorem exists_split_of_mem {before others : List RunReport} {result : RunReport}
    {artifact : Artifact} (order : report.successes = before ++ result :: others)
    (listed : artifact ∈ result.artifacts output withSchemas) :
    ∃ front back, report.artifacts output withSchemas = front ++ artifact :: back ∧
      ∀ other ∈ back, (∃ table ∈ result :: others, other ∈ table.artifacts output withSchemas) ∨
        ∃ bytes, other = ⟨output.join localizationFile, bytes⟩ := by
  obtain ⟨texts, whole, localized⟩ : ∃ texts,
      report.artifacts output withSchemas =
        report.successes.flatMap (RunReport.artifacts output withSchemas) ++ texts ∧
      ∀ other ∈ texts, ∃ bytes, other = ⟨output.join localizationFile, bytes⟩ := by
    unfold artifacts
    dsimp only
    split
    · exact ⟨[], (List.append_nil _).symm, nofun⟩
    · exact ⟨_, rfl, fun other member => ⟨_, List.mem_singleton.mp member⟩⟩
  obtain ⟨first, last, split⟩ := List.append_of_mem listed
  refine ⟨before.flatMap (RunReport.artifacts output withSchemas) ++ first,
    last ++ (others.flatMap (RunReport.artifacts output withSchemas) ++ texts), ?_, ?_⟩
  · rw [whole, order, List.flatMap_append, List.flatMap_cons, split]
    simp only [List.append_assoc, List.cons_append]
  · intro other member
    rcases List.mem_append.mp member with own | member
    · exact .inl ⟨result, List.mem_cons_self,
        split ▸ List.mem_append_right first (List.mem_cons_of_mem artifact own)⟩
    · rcases List.mem_append.mp member with later | text
      · obtain ⟨table, inside, written⟩ := List.mem_flatMap.mp later
        exact .inl ⟨table, List.mem_cons_of_mem result inside, written⟩
      · exact .inr (localized other text)

end BatchReport

end SheetCompiler

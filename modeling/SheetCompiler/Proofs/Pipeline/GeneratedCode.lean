import SheetCompiler.Proofs.Pipeline.SchemaShape
import SheetCompiler.Proofs.Schema.Identifier

/-!
# Generated code

Each generated file declares the record of its table with the fields that its target sees. The
names of these are identifiers of the generated language, and differ, exactly where the names
in the table are of a kind that neither sanitizing nor the check for repeated names asks for.
-/

set_option autoImplicit false

namespace SheetCompiler

namespace RunState

variable {files placed : List CodeFile} {file : CodeFile}

theorem mem_foldl_placeFile (listed : file ∈ files.foldl placeFile placed) :
    file ∈ placed ∨ file ∈ files := by
  induction files generalizing placed with
  | nil => exact .inl listed
  | cons first files ih =>
      rw [List.foldl_cons] at listed
      rcases ih listed with former | later
      · rcases List.mem_append.mp former with kept | same
        · exact .inl (List.mem_filter.mp kept).1
        · exact .inr (List.mem_singleton.mp same ▸ List.mem_cons_self)
      · exact .inr (List.mem_cons_of_mem first later)

end RunState

/-! ## Declarations -/

namespace CodeFile

/-- The declaration of a field behind its comments. -/
def IsFieldBlock (identifier : String) (lines : List String) : Prop :=
  ∃ (comments : List String) (type : String), lines = comments ++ [s!"    pub {identifier}: {type},"] ∧
    ∀ line ∈ comments, ∃ text, line = "    /// " ++ text

/-- A file that declares a record with some fields in their order. -/
def Declares (file : CodeFile) (record : String) (fields : List String) : Prop :=
  ∃ opening blocks,
    file.contents = String.join ((opening ++ [s!"pub struct {record} \x7b"] ++
      blocks.flatten ++ ["\x7d"]).map fun line => line ++ "\n") ∧
    List.Forall₂ IsFieldBlock fields blocks

theorem isFieldBlock_fieldLines (field : Field) :
    IsFieldBlock (fieldIdentifier field.name) (fieldLines field) := by
  refine ⟨_, field.type.codeName, rfl, ?_⟩
  intro line listed
  rcases List.mem_append.mp listed with described | refers
  · obtain ⟨text, -, rfl⟩ := List.mem_map.mp described
    exact ⟨_, rfl⟩
  · split at refers
    · rename_i target _
      obtain rfl := List.mem_singleton.mp refers
      have front : "    /// Id of a `" = "    /// " ++ "Id of a `" := rfl
      refine ⟨"Id of a `" ++ target.typeName ++ "` record.", ?_⟩
      change "    /// Id of a `" ++ target.typeName ++ "` record." = _
      rw [front, String.append_assoc, String.append_assoc, String.append_assoc]
    · cases refers

/-- The fields of a schema that a target sees. -/
def seenFields (schema : Schema) (target : Target) : List Field :=
  schema.fields.filter fun field => field.scope.includes target

theorem exists_fileLines (schema : Schema) (fields : List Field) :
    ∃ opening, fileLines schema fields =
      opening ++ [s!"pub struct {structName schema} \x7b"] ++ fields.flatMap fieldLines ++
        ["\x7d"] := by
  unfold fileLines
  dsimp only
  generalize s!"pub struct {structName schema} \x7b" = declaration
  have apart : ["#[derive(Debug, Clone, PartialEq)]", declaration] =
      ["#[derive(Debug, Clone, PartialEq)]"] ++ [declaration] := rfl
  rw [apart, ← List.append_assoc _ ["#[derive(Debug, Clone, PartialEq)]"]]
  exact ⟨_, rfl⟩

theorem declares_ofTarget {schema : Schema} {target : Target} {file : CodeFile}
    (made : ofTarget? schema target = some file) :
    file.Declares (structName schema)
      ((seenFields schema target).map fun field => fieldIdentifier field.name) := by
  unfold ofTarget? at made
  dsimp only at made
  split at made
  · cases made
  · obtain rfl := Option.some.inj made
    obtain ⟨opening, lines⟩ := exists_fileLines schema (seenFields schema target)
    refine ⟨opening, (seenFields schema target).map fieldLines, ?_, ?_⟩
    · rw [← List.flatMap_def, ← lines]
      rfl
    · rw [List.forall₂_map_left_iff, List.forall₂_map_right_iff]
      exact List.forall₂_same.mpr fun field _ => isFieldBlock_fieldLines field

theorem names_seenFields {schema other : Schema}
    (same : other.fields.map Field.outline = schema.fields.map Field.outline) (target : Target) :
    (seenFields other target).map (·.name) = (seenFields schema target).map (·.name) := by
  have seen (schema : Schema) : (seenFields schema target).map (·.name) =
      ((schema.fields.map Field.outline).filter fun field =>
        field.scope.includes target).map (·.name) := by
    rw [List.filter_map, List.map_map]
    rfl
  rw [seen, seen, same]

/-- The identifiers of fields of safe names differ exactly when their words do. -/
theorem nodup_identifiers_iff {fields : List Field}
    (safe : ∀ field ∈ fields, IsSafeName field.name) :
    (fields.map fun field => fieldIdentifier field.name).Nodup ↔
      (fields.map fun field => caselessWords field.name).Nodup := by
  unfold List.Nodup
  rw [List.pairwise_map, List.pairwise_map]
  refine List.Pairwise.iff_of_mem fun {first second} former later => ?_
  exact ((safe first former).fieldIdentifier_eq_iff (safe second later)).not

end CodeFile

/-! ## Whole runs -/

namespace Standard

variable {settings : StandardSettings} {nameSpace : String} {sheet : Sheet}
  {resolved : Schema} {diagnostics : List Diagnostic} {moved : LocalizedTable}

theorem name_processed
    (resolves : Schema.ofSheet (cleaned sheet) nameSpace = .ok (resolved, diagnostics))
    (completes : processed settings resolved (cleaned sheet) = .ok moved) :
    moved.schema.name = sheet.name := by
  have same : moved.schema.name = resolved.name := (localized_frame completes).name
  have cleans : (cleaned sheet).name = sheet.name := rfl
  rw [same, Schema.name_ofSheet resolves, cleans]

/-- The names in the files of a run that succeeds: which of them are identifiers, and whether
those of the fields differ. -/
theorem declares_run (options : RunOptions) (settings : StandardSettings) (clock : Clock)
    (cancelled : Bool) (sheet : Sheet)
    (succeeds : ((Pipeline.standard options settings).run clock cancelled sheet).success = true) :
    ∃ schema,
      ((Pipeline.standard options settings).run clock cancelled sheet).state.schema =
        some schema ∧
      (isIdentifier (CodeFile.structName schema) = true ↔ HasRecordName sheet.name) ∧
      ∀ file ∈ ((Pipeline.standard options settings).run clock cancelled sheet).state.files,
        ∃ target,
          let fields := CodeFile.seenFields schema target
          file.Declares (CodeFile.structName schema)
            (fields.map fun field => fieldIdentifier field.name) ∧
          (∀ field ∈ fields,
            isIdentifier (fieldIdentifier field.name) = true ↔ HasIdentifier field.name) ∧
          ((fields.map fun field => fieldIdentifier field.name).Nodup ↔
            (fields.map fun field => caselessWords field.name).Nodup) := by
  obtain ⟨resolved, diagnostics, moved, resolves, completes, -, leaves⟩ :=
    exists_leaves_of_success succeeds
  have name : moved.schema.name = sheet.name := name_processed resolves completes
  rw [leaves.schema, leaves.files]
  refine ⟨moved.schema, rfl, ?_, ?_⟩
  · rw [CodeFile.structName, name]
    exact isIdentifier_camel_iff sheet.name
  · intro file listed
    rcases RunState.mem_foldl_placeFile listed with none | generated
    · cases none
    · obtain ⟨target, -, made⟩ := List.mem_filterMap.mp generated
      have safe : ∀ field ∈ CodeFile.seenFields moved.schema target, IsSafeName field.name :=
        fun field seen => isSafeName_processed resolves completes (List.mem_filter.mp seen).1
      refine ⟨target, ?_, fun field seen => (safe field seen).isIdentifier_iff,
        CodeFile.nodup_identifiers_iff safe⟩
      -- the files are made before the data is processed, which changes no name and no scope
      have names := CodeFile.names_seenFields (outline_processed completes) target
      have identifiers := congrArg (List.map fieldIdentifier) names
      rw [List.map_map, List.map_map] at identifiers
      have record : CodeFile.structName moved.schema = CodeFile.structName resolved := by
        rw [CodeFile.structName, CodeFile.structName, name]
        exact congrArg _ (Schema.name_ofSheet resolves).symm
      have declared := CodeFile.declares_ofTarget made
      rw [record]
      exact identifiers ▸ declared

/-- A field whose name is a keyword, which only the server sees. -/
theorem declares_run_skills :
    let sheet : Sheet := ⟨"skill_table",
      [["Id", "Type@Server", "MaxLevel"], ["int", "string", "int"], ["", "", ""], ["", "", ""]]⟩
    let report := (Pipeline.standard .standard .standard).run .least false sheet
    HasRecordName "skill_table" ∧
      report.state.files.map (·.path) = ["client/skill_table.rs", "server/skill_table.rs"] ∧
      ∀ file ∈ report.state.files, ∃ fields : List Field,
        file.Declares "SkillTable" (fields.map fun field => fieldIdentifier field.name) ∧
        ∀ field ∈ fields,
          isIdentifier (fieldIdentifier field.name) = true ↔ HasIdentifier field.name := by
  intro sheet
  dsimp only
  obtain ⟨schema, final, record, files⟩ :=
    declares_run .standard .standard .least false sheet (by decide +kernel)
  have shown : ((Pipeline.standard .standard .standard).run .least false
      sheet).state.schema.map CodeFile.structName = some "SkillTable" := by decide +kernel
  rw [final, Option.map_some] at shown
  have named := Option.some.inj shown
  refine ⟨record.mp ?_, by decide +kernel, fun file listed => ?_⟩
  · rw [named]
    decide +kernel
  · obtain ⟨target, declared, identifiers, -⟩ := files file listed
    exact ⟨_, named ▸ declared, identifiers⟩

/-- A run that succeeds with a record that starts with a digit, a keyword without a raw form, a
number, nothing at all, and twice the same field. -/
theorem declares_run_not_legal :
    let sheet : Sheet := ⟨"2nd_table",
      [["Super", "_1", "名", "a_b", "A__b"], ["int", "int", "int", "int", "int"],
        ["", "", "", "", ""], ["", "", "", "", ""]]⟩
    let report := (Pipeline.standard .standard .standard).run .least false sheet
    report.success = true ∧
      ∃ file ∈ report.state.files,
        file.Declares "2ndTable" ["r#super", "1", "", "a_b", "a_b"] ∧
        isIdentifier "2ndTable" = false ∧
        isIdentifier "r#super" = false ∧ isIdentifier "1" = false ∧ isIdentifier "" = false ∧
        ¬ ["r#super", "1", "", "a_b", "a_b"].Nodup := by
  intro sheet
  let opening : List String :=
    ["// Generated by tabledef from table '2nd_table'. Do not edit.", "",
      "#[derive(Debug, Clone, PartialEq)]"]
  let blocks : List (List String) :=
    [["    pub r#super: i32,"], ["    pub 1: i32,"], ["    pub : i32,"], ["    pub a_b: i32,"],
      ["    pub a_b: i32,"]]
  let lines := opening ++ ["pub struct 2ndTable \x7b"] ++ blocks.flatten ++ ["\x7d"]
  let file : CodeFile := ⟨"client/2nd_table.rs", String.join (lines.map fun line => line ++ "\n")⟩
  have plain (identifier type line : String) (is : [line] = [s!"    pub {identifier}: {type},"]) :
      CodeFile.IsFieldBlock identifier [line] := ⟨[], type, is, nofun⟩
  refine ⟨by decide +kernel, file, by decide +kernel, ⟨opening, blocks, by decide +kernel, ?_⟩,
    by decide +kernel, by decide +kernel, by decide +kernel, by decide +kernel, by decide⟩
  exact .cons (plain "r#super" "i32" _ (by decide +kernel))
    (.cons (plain "1" "i32" _ (by decide +kernel)) (.cons (plain "" "i32" _ (by decide +kernel))
      (.cons (plain "a_b" "i32" _ (by decide +kernel))
        (.cons (plain "a_b" "i32" _ (by decide +kernel)) .nil))))

end Standard

end SheetCompiler

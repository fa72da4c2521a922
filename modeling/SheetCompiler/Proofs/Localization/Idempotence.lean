import SheetCompiler.Proofs.Localization.Listing
import SheetCompiler.Proofs.Localization.Spared

/-!
# Extraction done twice

With the standard key pattern a second extraction changes nothing. The first one has marked and
listed the fields that it detects, and their columns hold blanks and keys alone. A field that it
does not detect is not detected later either: its column has kept its texts, or has lost all
prose to the keys of another field of the same column.
-/

set_option autoImplicit false

namespace SheetCompiler

theorem Schema.modifyField_eq_self {schema : Schema} {name : String} {change : Field → Field}
    (keeps : ∀ field ∈ schema.fields, field.name = name → change field = field) :
    schema.modifyField name change = schema := by
  have fields : (schema.modifyField name change).fields.map id = schema.fields.map id :=
    map_modifyField keeps
  rw [List.map_id, List.map_id] at fields
  unfold modifyField at fields ⊢
  split at fields
  · exact congrArg (fun fields => { schema with fields }) fields
  · rfl

namespace LocalizedTable

variable {rules : LocalizationRules} {state : LocalizedTable} {schema : Schema} {sheet : Sheet}
  {name : String} {column : Nat}

/-! ## Moved fields -/

/-- A field of which nothing is left to do. -/
structure IsMoved (rules : LocalizationRules) (state : LocalizedTable) (name : String) : Prop where
  marked : ∀ field ∈ state.schema.fields, field.name = name → field.kind ≠ .plain
  listed : name ∈ state.schema.metadata.localizedFields
  emptied : ∀ column, state.schema.columnOf? name = some column →
    IsEmptied rules state.sheet column

theorem foldl_moveCell_eq_self {cells : List (Nat × String)}
    (spared : ∀ cell ∈ cells, rules.Spares cell.2) :
    cells.foldl (moveCell rules name column) state = state := by
  induction cells with
  | nil => rfl
  | cons cell cells ih =>
      rw [List.forall_mem_cons] at spared
      have kept : moveCell rules name column state cell = state := by
        unfold moveCell
        dsimp only
        rw [if_pos (Bool.or_eq_true_iff.mpr spared.1)]
      rw [List.foldl_cons, kept]
      exact ih spared.2

theorem IsMoved.moveField_eq_self (moved : IsMoved rules state name) :
    moveField rules state name = state := by
  cases found : state.schema.field? name with
  | none =>
      unfold moveField
      rw [found]
  | some field =>
      have located : state.schema.columnOf? name = some field.column := by
        rw [Schema.columnOf?, found]
        rfl
      have marks : state.schema.modifyField name markLocalized = state.schema :=
        Schema.modifyField_eq_self fun other member same =>
          markLocalized_eq_self (moved.marked other member same)
      have moves : (state.sheet.columnTexts field.column).foldl
          (moveCell rules name field.column) state = state := by
        refine foldl_moveCell_eq_self fun cell listed => ?_
        obtain ⟨data, bound, reads⟩ := Sheet.mem_columnTexts.mp listed
        rw [reads]
        exact moved.emptied field.column located cell.1 data bound
      have lists : listField name state.schema = state.schema := by
        unfold listField
        dsimp only
        rw [if_pos (List.contains_iff_mem.mpr moved.listed)]
      unfold moveField
      rw [found]
      dsimp only
      rw [marks, moves, lists]

theorem IsEmptied.moveField (emptied : IsEmptied rules state.sheet column) (name : String) :
    IsEmptied rules (moveField rules state name).sheet column := by
  intro row data bound
  rw [(moveField_frame rules state name).sheet.rowCount] at bound
  exact spares_moveField rules state name (emptied row data bound)

/-- What has been done for a field stays done. -/
theorem IsMoved.moveField (moved : IsMoved rules state name)
    (names : state.schema.fieldNames.Nodup) (other : String) :
    IsMoved rules (moveField rules state other) name where
  marked field member same := by
    rw [fields_moveField, Schema.fields_modifyField names] at member
    obtain ⟨former, inside, rfl⟩ := List.mem_map.mp member
    split at same <;> rename_i changed
    · rw [name_markLocalized] at same
      have kind := moved.marked former inside same
      rw [if_pos changed, markLocalized_eq_self kind]
      exact kind
    · rw [if_neg changed]
      exact moved.marked former inside same
  listed := by
    cases found : state.schema.field? other with
    | none =>
        unfold LocalizedTable.moveField
        rw [found]
        exact moved.listed
    | some field => exact (mem_localizedFields_moveField found name).mpr (.inl moved.listed)
  emptied column located := by
    rw [Schema.columnOf?_eq_of_outline name (moveField_frame rules state other).outline] at located
    exact (moved.emptied column located).moveField other

/-- Moving the texts of a field does all there is to do for it. -/
theorem isMoved_moveField (finds : FindsKeys rules) (names : state.schema.fieldNames.Nodup)
    (listed : name ∈ state.schema.fieldNames) (plain : Localization.IsPlain name) :
    IsMoved rules (moveField rules state name) name where
  marked field member same := by
    rw [fields_moveField, Schema.fields_modifyField names] at member
    obtain ⟨former, inside, rfl⟩ := List.mem_map.mp member
    split at same <;> rename_i changed
    · rw [if_pos changed]
      unfold markLocalized
      split
      · exact nofun
      · rename_i kind
        simpa using kind
    · exact absurd same changed
  listed := by
    obtain ⟨field, member, rfl⟩ := List.mem_map.mp listed
    cases found : state.schema.field? field.name with
    | none =>
        have absent := List.find?_eq_none.mp found field member
        simp at absent
    | some other => exact (mem_localizedFields_moveField found _).mpr (.inr rfl)
  emptied column located := by
    rw [Schema.columnOf?_eq_of_outline name (moveField_frame rules state name).outline] at located
    exact isEmptied_moveField finds plain located

theorem fieldNames_moveField (rules : LocalizationRules) (state : LocalizedTable) (name : String) :
    (moveField rules state name).schema.fieldNames = state.schema.fieldNames :=
  Schema.fieldNames_eq_of_outline (moveField_frame rules state name).outline

theorem IsMoved.foldl_moveField (moved : IsMoved rules state name)
    (names : state.schema.fieldNames.Nodup) (others : List String) :
    IsMoved rules (others.foldl (LocalizedTable.moveField rules) state) name := by
  induction others generalizing state with
  | nil => exact moved
  | cons other others ih =>
      exact ih (moved.moveField names other) (fieldNames_moveField rules state other ▸ names)

theorem isMoved_foldl_moveField (finds : FindsKeys rules) (names : state.schema.fieldNames.Nodup)
    {fields : List String} (listed : ∀ name ∈ fields, name ∈ state.schema.fieldNames)
    (plain : ∀ name ∈ fields, Localization.IsPlain name) :
    ∀ name ∈ fields, IsMoved rules (fields.foldl (moveField rules) state) name := by
  induction fields generalizing state with
  | nil => exact nofun
  | cons field fields ih =>
      rw [List.forall_mem_cons] at listed plain ⊢
      have same := fieldNames_moveField rules state field
      refine ⟨(isMoved_moveField finds names listed.1 plain.1).foldl_moveField (same ▸ names) fields,
        ih (same ▸ names) (same ▸ listed.2) plain.2⟩

theorem foldl_moveField_eq_self {fields : List String}
    (moved : ∀ name ∈ fields, IsMoved rules state name) :
    fields.foldl (moveField rules) state = state := by
  induction fields with
  | nil => rfl
  | cons field fields ih =>
      rw [List.forall_mem_cons] at moved
      rw [List.foldl_cons, moved.1.moveField_eq_self]
      exact ih moved.2

/-! ## Detection -/

/-- A column without texts to move has no sample. -/
theorem IsEmptied.sampleLooksLikeProse (emptied : IsEmptied rules sheet column) :
    rules.sampleLooksLikeProse sheet column = false := by
  have none : rules.sample sheet column = [] := by
    unfold LocalizationRules.sample
    have empty : (((sheet.columnTexts column).map fun cell => Text.trimmed cell.2).filter
        fun text => !text.isEmpty && !rules.isKey text) = [] := by
      rw [List.filter_eq_nil_iff]
      rintro _ listed
      obtain ⟨cell, member, rfl⟩ := List.mem_map.mp listed
      obtain ⟨data, bound, reads⟩ := Sheet.mem_columnTexts.mp member
      have spared := emptied cell.1 data bound
      rw [← reads] at spared
      rcases spared with blank | key
      · simp [blank]
      · simp [key]
    dsimp only
    rw [empty, List.take_nil]
  unfold LocalizationRules.sampleLooksLikeProse
  dsimp only
  rw [none]
  rfl

/-- Only the fields whose texts are moved are marked. -/
theorem mem_or_mem_of_foldl {names : List String} (distinct : state.schema.fieldNames.Nodup)
    {field : Field} (member : field ∈ (names.foldl (moveField rules) state).schema.fields) :
    field ∈ state.schema.fields ∨ field.name ∈ names := by
  induction names generalizing state with
  | nil => exact .inl member
  | cons name names ih =>
      have same := fieldNames_moveField rules state name
      rcases ih (same ▸ distinct) member with former | later
      · rw [fields_moveField, Schema.fields_modifyField distinct] at former
        obtain ⟨origin, inside, rfl⟩ := List.mem_map.mp former
        split
        · rename_i changed
          rw [name_markLocalized, changed]
          exact .inr List.mem_cons_self
        · exact .inl inside
      · exact .inr (List.mem_cons_of_mem _ later)

section Extraction

variable (finds : FindsKeys rules) (names : schema.fieldNames.Nodup)
  (plain : ∀ name ∈ schema.fieldNames, Localization.IsPlain name) (sheet : Sheet)
  (table : LocalizationTable)

include finds names plain

theorem isMoved_extract :
    ∀ name ∈ rules.detectedFields schema sheet,
      IsMoved rules (rules.extract schema sheet table) name := by
  have listed : ∀ name ∈ rules.detectedFields schema sheet, name ∈ schema.fieldNames :=
    fun name detected => (List.filter_sublist.map _).mem detected
  exact @isMoved_foldl_moveField rules ⟨schema, sheet, table, 0⟩ finds names _ listed
    fun name detected => plain name (listed name detected)

/-- The sample of a column is what it was, or nothing. -/
theorem sampleLooksLikeProse_of_extract
    (prose : rules.sampleLooksLikeProse (rules.extract schema sheet table).sheet column = true) :
    rules.sampleLooksLikeProse sheet column = true := by
  have frame := rules.extract_frame schema sheet table
  by_cases touched : ∃ name ∈ rules.detectedFields schema sheet,
      schema.columnOf? name = some column
  · obtain ⟨name, detected, located⟩ := touched
    rw [← Schema.columnOf?_eq_of_outline name frame.outline] at located
    have moved := isMoved_extract finds names plain sheet table name detected
    rw [(moved.emptied column located).sampleLooksLikeProse] at prose
    cases prose
  · unfold LocalizationRules.sampleLooksLikeProse LocalizationRules.sample at prose ⊢
    rwa [frame.sheet.columnTexts touched] at prose

/-- What is detected after an extraction was detected before it. -/
theorem detected_of_extract {name : String}
    (again : name ∈ rules.detectedFields (rules.extract schema sheet table).schema
      (rules.extract schema sheet table).sheet) :
    name ∈ rules.detectedFields schema sheet := by
  obtain ⟨field, kept, rfl⟩ := List.mem_map.mp again
  obtain ⟨member, detects⟩ := List.mem_filter.mp kept
  rcases mem_or_mem_of_foldl names member with former | moved
  · refine List.mem_map.mpr ⟨field, List.mem_filter.mpr ⟨former, ?_⟩, rfl⟩
    unfold LocalizationRules.detects at detects ⊢
    split at detects
    · rfl
    · rw [Bool.and_eq_true, Bool.or_eq_true] at detects ⊢
      refine ⟨detects.1, detects.2.imp_right fun prose => ?_⟩
      exact sampleLooksLikeProse_of_extract finds names plain sheet table prose
    · cases detects
  · exact moved

end Extraction

end LocalizedTable

/-! ## The standard key pattern -/

namespace LocalizationRules

theorem findsKeys_standard (settings : LocalizationSettings) :
    LocalizedTable.FindsKeys ⟨settings, Pattern.standardKey⟩ :=
  fun _ shape => shape.isFound

/-- Settings with the standard key pattern can be used, and a second extraction with them moves
no text and changes neither the schema nor the sheet nor the table: every key that can be issued
for a text of a clean name is found behind its mark. -/
theorem extract_extract (settings : LocalizationSettings)
    (standard : settings.keyPattern = LocalizationSettings.standard.keyPattern) :
    ∃ rules, ofSettings settings = .ok rules ∧
      (∀ (name : List Char) (text : String) (suffix : Nat),
        rules.isKey (Localization.keyMark ++ LocalizationTable.suffixed
          (Localization.keyBase (cleanName name) text settings.summaryWords) suffix) = true) ∧
      ∀ (schema : Schema) (sheet : Sheet) (table : LocalizationTable),
        schema.fieldNames.Nodup → (∀ name ∈ schema.fieldNames, ∃ cs, name = cleanName cs) →
        let later := rules.extract schema sheet table
        rules.extract later.schema later.sheet later.table =
          ⟨later.schema, later.sheet, later.table, 0⟩ := by
  have finds := findsKeys_standard settings
  refine ⟨⟨settings, Pattern.standardKey⟩, ofSettings_standardKey standard,
    fun name text suffix => ?_, ?_⟩
  · exact finds _ ((Localization.isKey_keyBase (isPlain_cleanName name) text _).suffixed suffix)
  · intro schema sheet table names clean later
    have plain (name : String) (listed : name ∈ schema.fieldNames) :
        Localization.IsPlain name := by
      obtain ⟨cs, rfl⟩ := clean name listed
      exact isPlain_cleanName cs
    have moved := LocalizedTable.isMoved_extract finds names plain sheet table
    refine LocalizedTable.foldl_moveField_eq_self fun name again => ?_
    obtain ⟨marked, listed, emptied⟩ := moved name
      (LocalizedTable.detected_of_extract finds names plain sheet table again)
    exact ⟨marked, listed, emptied⟩

/-- A repeated text, a field that is detected by its prose, and no words for the summaries. -/
theorem extract_extract_detected :
    let settings : LocalizationSettings :=
      { LocalizationSettings.standard with
        autoDetect := true, keywords := [], lengthThreshold := 5, summaryWords := 0 }
    let schema : Schema := ⟨"Item", "",
      [⟨"Name", 0, .scalar .string, "string", .all, .localized, none, "", "Name@Lan"⟩,
        ⟨"Note", 1, .scalar .string, "string", .all, .plain, none, "", "Note"⟩], .empty⟩
    let sheet : Sheet := ⟨"Item",
      [["Name@Lan", "Note"], ["string", "string"], ["", ""], ["", ""], ["Sword", "Sharp edge"],
        ["Sword", ""]]⟩
    ∃ rules, ofSettings settings = .ok rules ∧
      let later := rules.extract schema sheet .empty
      later.replaced = 3 ∧
        rules.extract later.schema later.sheet later.table =
          ⟨later.schema, later.sheet, later.table, 0⟩ := by
  intro settings schema sheet
  obtain ⟨rules, read, -, again⟩ := extract_extract settings rfl
  have names : ∀ name ∈ schema.fieldNames, ∃ cs, name = cleanName cs := by
    intro name listed
    refine ⟨name.toList, ?_⟩
    rcases List.mem_pair.mp listed with rfl | rfl <;> rfl
  refine ⟨rules, read, ?_, again schema sheet .empty (by decide) names⟩
  have same : rules = ⟨settings, Pattern.standardKey⟩ :=
    Except.ok.inj (read.symm.trans (ofSettings_standardKey rfl))
  rw [same]
  decide +kernel

end LocalizationRules

end SheetCompiler

import SheetCompiler.Proofs.Localization.Frame
import SheetCompiler.Proofs.Localization.Table
import SheetCompiler.Proofs.Pattern.KeyPattern
import SheetCompiler.Proofs.Text.Casing
import SheetCompiler.Proofs.Schema.Resolved

/-!
# The shape of issued keys

A key is put together from the name of a field, a summary in upper case and a number. As
long as the name has only ASCII characters, which holds of every resolved field, the key is
one that the standard pattern finds.
-/

set_option autoImplicit false

namespace SheetCompiler

open Text

/-! ## Characters -/

namespace Pattern

variable {c : Char}

theorem isUpper_toUpper (letter : c.isAlpha = true) : c.toUpper.isUpper = true := by
  unfold Char.toUpper
  split
  · rename_i lower
    have first : 97 ≤ c.val.toNat := UInt32.le_iff_toNat_le.mp lower.1
    have last : c.val.toNat ≤ 122 := UInt32.le_iff_toNat_le.mp lower.2
    have shift : ('A'.val - 'a'.val).toNat = 2 ^ 32 - 32 := by decide +kernel
    rw [Letter.isUpper_iff, ← Char.toNat_val]
    dsimp only
    rw [UInt32.toNat_add, shift]
    omega
  · rename_i other
    rcases Bool.or_eq_true_iff.mp letter with upper | lower
    · exact upper
    · refine absurd ?_ other
      exact (Bool.and_eq_true_iff.mp lower).imp of_decide_eq_true of_decide_eq_true

theorem toUpper_of_isDigit (digit : c.isDigit = true) : c.toUpper = c := by
  unfold Char.toUpper
  split
  · rename_i lower
    have first : 97 ≤ c.val.toNat := UInt32.le_iff_toNat_le.mp lower.1
    have last : c.val.toNat ≤ 57 :=
      UInt32.le_iff_toNat_le.mp (of_decide_eq_true (Bool.and_eq_true_iff.mp digit).2)
    omega
  · rfl

theorem contains_keyClass_iff :
    keyClass.contains c = true ↔ c.isUpper = true ∨ c.isDigit = true ∨ c = '_' := by
  unfold keyClass CharClass.one
  simp only [CharClass.contains, Bool.false_or, Bool.or_eq_true, Bool.and_eq_true,
    decide_eq_true_eq, or_assoc]
  have upper : c.isUpper = true ↔ 'A' ≤ c ∧ c ≤ 'Z' := decide_eq_true_iff
  have digit : c.isDigit = true ↔ '0' ≤ c ∧ c ≤ '9' :=
    Bool.and_eq_true_iff.trans (and_congr decide_eq_true_iff decide_eq_true_iff)
  refine or_congr upper.symm (or_congr digit.symm ?_)
  constructor
  · rintro ⟨least, greatest⟩
    exact Char.le_antisymm greatest least
  · rintro rfl
    exact ⟨Char.le_refl _, Char.le_refl _⟩

/-- The letters and digits of ASCII are in the class once they are in upper case. -/
theorem contains_toUpper (kept : c.isAlphanum = true) : keyClass.contains c.toUpper = true := by
  rw [contains_keyClass_iff]
  rcases Bool.or_eq_true_iff.mp kept with letter | digit
  · exact .inl (isUpper_toUpper letter)
  · exact .inr (.inl ((toUpper_of_isDigit digit).symm ▸ digit))

theorem isBlank_of_contains (inside : keyClass.contains c = true) : isBlank c = false := by
  have code : 48 ≤ c.toNat ∧ c.toNat ≤ 95 := by
    rcases contains_keyClass_iff.mp inside with upper | digit | rfl
    · have bounds := Letter.isUpper_iff.mp upper
      omega
    · have bounds := Letter.isDigit_iff.mp digit
      omega
    · decide
  unfold isBlank
  grind

end Pattern

/-- Text of the characters that keys are made of. -/
def IsKeyed (cs : List Char) : Prop := ∀ c ∈ cs, Pattern.keyClass.contains c = true

namespace IsKeyed

variable {before after : List Char}

theorem append (former : IsKeyed before) (later : IsKeyed after) : IsKeyed (before ++ after) :=
  List.forall_mem_append.mpr ⟨former, later⟩

theorem underscore (later : IsKeyed after) : IsKeyed ('_' :: after) :=
  List.forall_mem_cons.mpr ⟨rfl, later⟩

theorem intercalate {parts : List (List Char)} (keyed : ∀ part ∈ parts, IsKeyed part) :
    IsKeyed (List.intercalate ['_'] parts) := by
  intro c member
  rcases mem_intercalate member with rfl | ⟨part, listed, inside⟩
  · rfl
  · exact keyed part listed c inside

end IsKeyed

namespace Localization

/-! ## Keys -/

def IsPlain (text : String) : Prop := ∀ c ∈ text.toList, Letter.isAscii c = true

theorem mem_of_mem_words {cs word : List Char} {c : Char} (listed : word ∈ Casing.words cs)
    (member : c ∈ word) : c ∈ cs := by
  obtain ⟨run, cut, inside⟩ := List.mem_flatMap.mp listed
  rcases Casing.mem_cutRun inside member with none | found
  · cases none
  · exact (mem_pieces cut c found).2

/-- A plain text in upper snake case could be part of a key. -/
theorem isKeyed_upperSnake {text : String} (plain : IsPlain text) :
    IsKeyed (Casing.upperSnake text).toList := by
  have whole : (Casing.upperSnake text).toList =
      List.intercalate ['_'] ((Casing.words text.toList).map Casing.upperWord) := by
    rw [Casing.upperSnake, joined, String.toList_intercalate, List.map_map]
    exact congrArg _ (List.map_congr_left fun word _ => String.toList_ofList)
  rw [whole]
  refine IsKeyed.intercalate fun part listed => ?_
  obtain ⟨word, cut, rfl⟩ := List.mem_map.mp listed
  intro c member
  obtain ⟨letter, inside, upper⟩ := List.mem_flatMap.mp member
  have ascii := plain letter (mem_of_mem_words cut inside)
  have kept := Casing.isAlphanumeric_of_mem_words cut inside
  unfold Letter.isAlphanumeric Letter.isAlphabetic Letter.isNumeric at kept
  rw [ascii, if_pos rfl, if_pos rfl] at kept
  rw [Letter.toUpper, ascii, if_pos rfl] at upper
  obtain rfl := List.mem_singleton.mp upper
  exact Pattern.contains_toUpper kept

theorem isPlain_joined_plainWords (text : String) (count : Nat) :
    IsPlain (joined " " ((plainWords text).take count)) := by
  intro c member
  rw [joined, String.toList_intercalate] at member
  rcases mem_intercalate member with rfl | ⟨part, listed, inside⟩
  · rfl
  · obtain ⟨word, taken, rfl⟩ := List.mem_map.mp listed
    obtain ⟨letters, filtered, rfl⟩ := List.mem_map.mp (List.mem_of_mem_take taken)
    obtain ⟨raw, -, rfl⟩ := List.mem_map.mp (List.mem_filter.mp filtered).1
    rw [String.toList_ofList] at inside
    exact Letter.isAscii_of_isAlphanum (List.mem_filter.mp inside).2

theorem isKeyed_shortDigest (text : String) : IsKeyed (shortDigest text).toList := by
  have digit (n : Nat) (small : n < 16) : Pattern.keyClass.contains n.digitChar.toUpper = true := by
    have all : ((List.range 16).all fun n =>
        Pattern.keyClass.contains n.digitChar.toUpper) = true := by decide +kernel
    exact List.all_eq_true.mp all n (List.mem_range.mpr small)
  intro c member
  rw [shortDigest, String.toList_ofList, hex, String.toList_ofList] at member
  obtain ⟨d, taken, rfl⟩ := List.mem_map.mp member
  obtain ⟨byte, -, listed⟩ := List.mem_flatMap.mp (List.mem_of_mem_take taken)
  have bound : byte.toNat < 256 := byte.toNat_lt
  rcases List.mem_pair.mp listed with rfl | rfl
  · exact digit _ (by omega)
  · exact digit _ (by omega)

theorem isKeyed_summary (text : String) (words : Nat) : IsKeyed (summary text words).toList := by
  unfold summary
  dsimp only
  split
  · exact isKeyed_shortDigest text
  · exact isKeyed_upperSnake (isPlain_joined_plainWords text _)

theorem toList_keyBase (field text : String) (words : Nat) :
    (keyBase field text words).toList =
      (Casing.upperSnake field).toList ++ '_' :: (summary text words).toList := by
  simp [keyBase, toString, String.toList_append]

/-- A key that the standard pattern finds behind its mark. -/
structure IsKey (key : String) : Prop where
  filled : key.toList ≠ []
  keyed : IsKeyed key.toList

theorem isKey_keyBase {field : String} (plain : IsPlain field) (text : String) (words : Nat) :
    IsKey (keyBase field text words) where
  filled := by
    rw [toList_keyBase]
    exact List.append_ne_nil_of_right_ne_nil _ (List.cons_ne_nil _ _)
  keyed := by
    rw [toList_keyBase]
    exact (isKeyed_upperSnake plain).append (isKeyed_summary text words).underscore

theorem IsKey.suffixed {base : String} (key : IsKey base) (n : Nat) :
    IsKey (LocalizationTable.suffixed base n) := by
  cases n with
  | zero => exact key
  | succ n =>
      constructor
      · rw [LocalizationTable.toList_suffixed_succ]
        exact List.append_ne_nil_of_left_ne_nil key.filled _
      · rw [LocalizationTable.toList_suffixed_succ]
        refine key.keyed.append (IsKeyed.underscore fun c member => ?_)
        have digit := Nat.isDigit_of_mem_toDigits (by decide) (by decide) member
        exact Pattern.contains_keyClass_iff.mpr (.inr (.inl digit))

theorem IsKey.freeKey {base : String} (key : IsKey base) (table : LocalizationTable) :
    IsKey (table.freeKey base) := key.suffixed _

theorem IsKey.isFound {key : String} (shape : IsKey key) :
    Pattern.standardKey.isFoundIn (keyMark ++ key) = true :=
  Pattern.isFoundIn_standardKey shape.filled shape.keyed

theorem IsKey.keyed_mark {key : String} (shape : IsKey key) :
    IsKeyed (keyMark ++ key).toList := by
  have mark : (keyMark.toList.all Pattern.keyClass.contains) = true := by decide
  rw [String.toList_append]
  exact IsKeyed.append (List.all_eq_true.mp mark) shape.keyed

theorem IsKey.trimmed_mark {key : String} (shape : IsKey key) :
    trimmed (keyMark ++ key) = keyMark ++ key := by
  have visible := fun c member => Pattern.isBlank_of_contains (shape.keyed_mark c member)
  have tight : Tight (keyMark ++ key).toList :=
    ⟨fun c starts => visible c (List.mem_of_head? starts),
      fun c ends => visible c (List.mem_of_getLast? ends)⟩
  rw [trimmed, tight.trim_eq, String.ofList_toList]

theorem visible_mark (key : String) : isBlankText (keyMark ++ key) = false := by
  rw [isBlankText, String.toList_append, List.all_append]
  rfl

end Localization

/-- Settings with the standard key pattern can be used. -/
theorem LocalizationRules.ofSettings_standardKey {settings : LocalizationSettings}
    (standard : settings.keyPattern = LocalizationSettings.standard.keyPattern) :
    ofSettings settings = .ok ⟨settings, Pattern.standardKey⟩ := by
  unfold ofSettings
  rw [standard, Pattern.ofText_standard]

/-! ## Tables -/

/-- All entries have keys that the standard pattern finds. -/
def LocalizationTable.HasKeys (table : LocalizationTable) : Prop :=
  ∀ entry ∈ table.entries, Localization.IsKey entry.key

/-- The key of an entry is made from its text, up to a suffix. -/
def LocalizationEntry.HasBase (words : Nat) (entry : LocalizationEntry) : Prop :=
  ∃ n, entry.key =
    LocalizationTable.suffixed (Localization.keyBase entry.field entry.text words) n

namespace LocalizedTable

variable {state : LocalizedTable} {name : String} {holds : LocalizationEntry → Prop}

section Entries

/-- The later table has further entries, all of one kind. -/
def GrowsBy (holds : LocalizationEntry → Prop) (former later : LocalizedTable) : Prop :=
  ∃ added, later.table.entries = former.table.entries ++ added ∧ ∀ entry ∈ added, holds entry

theorem GrowsBy.refl (state : LocalizedTable) : GrowsBy holds state state :=
  ⟨[], (List.append_nil _).symm, nofun⟩

theorem GrowsBy.trans {former middle later : LocalizedTable} (first : GrowsBy holds former middle)
    (second : GrowsBy holds middle later) : GrowsBy holds former later := by
  obtain ⟨added, here, kind⟩ := first
  obtain ⟨more, rest, others⟩ := second
  refine ⟨added ++ more, ?_, List.forall_mem_append.mpr ⟨kind, others⟩⟩
  rw [rest, here, List.append_assoc]

variable (rules : LocalizationRules)

/-- The entries that moving the texts of a field can add are of this kind. -/
def Adds (name : String) (holds : LocalizationEntry → Prop) : Prop :=
  ∀ (table : LocalizationTable) (text source : String),
    holds ⟨table.freeKey (Localization.keyBase name text rules.settings.summaryWords), text, source,
      name⟩

variable {rules}

theorem growsBy_moveCell (column : Nat) (adds : Adds rules name holds) (state : LocalizedTable)
    (cell : Nat × String) : GrowsBy holds state (moveCell rules name column state cell) := by
  unfold moveCell
  dsimp only
  split
  · exact .refl state
  · exact ⟨[_], rfl, List.forall_mem_singleton.mpr (adds state.table _ _)⟩

theorem growsBy_moveField (adds : Adds rules name holds) (state : LocalizedTable) :
    GrowsBy holds state (moveField rules state name) := by
  unfold moveField
  split
  · exact .refl state
  · rename_i field _
    have moved (cells : List (Nat × String)) (state : LocalizedTable) :
        GrowsBy holds state (cells.foldl (moveCell rules name field.column) state) := by
      induction cells generalizing state with
      | nil => exact .refl state
      | cons cell cells ih => exact (growsBy_moveCell field.column adds state cell).trans (ih _)
    exact moved _ _

/-- What holds of the entries that can be added holds of those that an extraction adds. -/
theorem growsBy_extract {schema : Schema} {sheet : Sheet} (table : LocalizationTable)
    (adds : ∀ name ∈ rules.detectedFields schema sheet, Adds rules name holds) :
    GrowsBy holds ⟨schema, sheet, table, 0⟩ (rules.extract schema sheet table) := by
  have moved (names : List String) (adds : ∀ name ∈ names, Adds rules name holds)
      (state : LocalizedTable) : GrowsBy holds state (names.foldl (moveField rules) state) := by
    induction names generalizing state with
    | nil => exact .refl state
    | cons name names ih =>
        rw [List.forall_mem_cons] at adds
        exact (growsBy_moveField adds.1 state).trans (ih adds.2 _)
  exact moved _ adds _

theorem forall_entries_extract (schema : Schema) (sheet : Sheet) (table : LocalizationTable)
    (adds : ∀ name ∈ schema.fieldNames, Adds rules name holds)
    (all : ∀ entry ∈ table.entries, holds entry) :
    ∀ entry ∈ (rules.extract schema sheet table).table.entries, holds entry := by
  obtain ⟨added, entries, kind⟩ := growsBy_extract table fun name detected =>
    adds name ((List.filter_sublist.map _).mem detected)
  rw [entries]
  exact List.forall_mem_append.mpr ⟨all, kind⟩

end Entries

theorem hasKeys_extract (rules : LocalizationRules) (schema : Schema) (sheet : Sheet)
    (table : LocalizationTable) (plain : ∀ name ∈ schema.fieldNames, Localization.IsPlain name)
    (keys : table.HasKeys) : (rules.extract schema sheet table).table.HasKeys :=
  forall_entries_extract schema sheet table
    (fun name listed table _ _ =>
      (Localization.isKey_keyBase (plain name listed) _ _).freeKey table) keys

theorem hasBase_extract (rules : LocalizationRules) (schema : Schema) (sheet : Sheet)
    (table : LocalizationTable)
    (bases : ∀ entry ∈ table.entries, entry.HasBase rules.settings.summaryWords) :
    ∀ entry ∈ (rules.extract schema sheet table).table.entries,
      entry.HasBase rules.settings.summaryWords :=
  forall_entries_extract schema sheet table (fun _ _ _ _ _ => ⟨_, rfl⟩) bases

end LocalizedTable

/-! ## Names of fields -/

theorem isPlain_cleanName (cs : List Char) : Localization.IsPlain (cleanName cs) := by
  have cleaned : ∀ c ∈ (trim cs).map nameChar, Letter.isAscii c = true := by
    refine List.forall_mem_map.mpr fun c _ => ?_
    unfold nameChar
    split
    · rename_i kept
      rcases Bool.or_eq_true_iff.mp kept with letter | underscore
      · exact Letter.isAscii_of_isAlphanum letter
      · rw [eq_of_beq underscore]
        rfl
    · rfl
  have front : ∀ c ∈ "Field_".toList, Letter.isAscii c = true := by
    have all : ("Field_".toList.all Letter.isAscii) = true := by decide
    exact List.all_eq_true.mp all
  unfold Localization.IsPlain cleanName
  dsimp only
  split
  · split
    · rw [String.toList_append]
      refine List.forall_mem_append.mpr ⟨front, ?_⟩
      rw [String.toList_ofList]
      exact cleaned
    · rw [String.toList_ofList]
      exact cleaned
  · exact nofun

theorem Header.exists_name_ofText (cell : String) : ∃ cs, (ofText cell).name = cleanName cs := by
  unfold ofText
  dsimp only
  exact ⟨_, rfl⟩

theorem Column.name_toField (column : Column) : column.toField.1.name = column.header.name := rfl

theorem Column.isPlain_name (sheet : Sheet) (index : Nat) :
    Localization.IsPlain (Column.ofSheet sheet index).toField.1.name := by
  obtain ⟨cs, named⟩ := Header.exists_name_ofText (sheet.cell 0 index)
  have header : (Column.ofSheet sheet index).header = Header.ofText (sheet.cell 0 index) := rfl
  rw [Column.name_toField, header, named]
  exact isPlain_cleanName cs

/-- The names of resolved fields have only ASCII characters. -/
theorem Schema.isPlain_names {sheet : Sheet} {nameSpace : String} {schema : Schema}
    {diagnostics : List Diagnostic}
    (resolves : Schema.ofSheet sheet nameSpace = .ok (schema, diagnostics)) :
    ∀ name ∈ schema.fieldNames, Localization.IsPlain name := by
  rw [fieldNames, Schema.fields_ofSheet resolves, List.map_map]
  refine List.forall_mem_map.mpr fun column listed => ?_
  obtain ⟨index, -, rfl⟩ := List.mem_map.mp (List.mem_filter.mp listed).1
  exact Column.isPlain_name sheet index

end SheetCompiler

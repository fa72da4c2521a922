import SheetCompiler.Proofs.Localization.Spared

/-!
# Captured keys

A key that stands in a cell is spared, but the table into which the texts go need not know it.
Then the same key can be issued for a text, and the cell starts to stand for that text. Keys that
are taken are never captured, nor are those that are not made from the name of a detected field.
-/

set_option autoImplicit false

namespace SheetCompiler

namespace LocalizedTable

variable {rules : LocalizationRules} {schema : Schema} {sheet : Sheet}
  {table : LocalizationTable} {row column : Nat}

/-- A data cell of a detected field that holds a key before the extraction. -/
structure HoldsKey (rules : LocalizationRules) (schema : Schema) (sheet : Sheet)
    (row column : Nat) : Prop where
  data : Sheet.headerRows ≤ row
  field : ∃ field ∈ schema.fields, rules.detects sheet field = true ∧ field.column = column
  key : rules.isKey (Text.trimmed (sheet.cell row column)) = true

/-- An extraction writes into a cell what another cell held as a key before. -/
structure Captures (rules : LocalizationRules) (schema : Schema) (sheet : Sheet)
    (table : LocalizationTable) (written kept : Nat × Nat) : Prop where
  changed : (rules.extract schema sheet table).sheet.cell? written.1 written.2 ≠
    sheet.cell? written.1 written.2
  holds : HoldsKey rules schema sheet kept.1 kept.2
  same : (rules.extract schema sheet table).sheet.cell? written.1 written.2 =
    sheet.cell? kept.1 kept.2

theorem cell?_extract_of_holdsKey (table : LocalizationTable)
    (holds : HoldsKey rules schema sheet row column) :
    (rules.extract schema sheet table).sheet.cell? row column = sheet.cell? row column :=
  cell?_foldl_moveField_of_spares _ ⟨schema, sheet, table, 0⟩ (.inr holds.key)

/-- A captured key was free. It is made from the name of a detected field and the text that is
moved, and it leads to that text from now on. -/
theorem exists_entry_of_captures {written kept : Nat × Nat}
    (captures : Captures rules schema sheet table written kept) :
    ∃ entry ∈ (rules.extract schema sheet table).table.entries,
      sheet.cell? kept.1 kept.2 = some (Localization.keyMark ++ entry.key) ∧
      table.contains entry.key = false ∧
      entry.field ∈ rules.detectedFields schema sheet ∧
      entry.HasBase rules.settings.summaryWords ∧
      (table.IsSound →
        (rules.extract schema sheet table).table.get? entry.key = some entry.text) := by
  obtain ⟨issued, moves⟩ := exists_moves_foldl_moveField rules (rules.detectedFields schema sheet)
    ⟨schema, sheet, table, 0⟩
  have grows : GrowsBy
      (fun entry => entry.field ∈ rules.detectedFields schema sheet ∧
        entry.HasBase rules.settings.summaryWords)
      ⟨schema, sheet, table, 0⟩ (rules.extract schema sheet table) :=
    growsBy_extract table fun name detected _ _ _ => ⟨detected, _, rfl⟩
  have sheets : (rules.extract schema sheet table).sheet =
      sheet.writeCells (issued.map fun text => (text.place, text.mark)) := moves.sheet
  rcases Sheet.cell?_writeCells_cases sheet (issued.map fun text => (text.place, text.mark))
    written.1 written.2 with unchanged | ⟨mark, listed, reads⟩
  · exact absurd (sheets ▸ unchanged) captures.changed
  · obtain ⟨text, member, here⟩ := List.mem_map.mp listed
    obtain ⟨-, rfl⟩ := Prod.mk.inj here
    have added : text.entry schema.name ∈ issued.map (·.entry schema.name) :=
      List.mem_map_of_mem member
    have present : text.entry schema.name ∈ (rules.extract schema sheet table).table.entries :=
      moves.table.entries.symm ▸ List.mem_append_right _ added
    obtain ⟨detected, base⟩ := grows.holds_of_moves moves text member
    refine ⟨text.entry schema.name, present, ?_, moves.table.fresh _ added, detected, base,
      fun sound => (sound.issues moves.table).get?_key present⟩
    rw [← captures.same, sheets, reads]
    rfl

/-- A key that stands in a sheet and cannot be issued: it is taken, or no text of a detected
field can get it. -/
def IsSafe (rules : LocalizationRules) (schema : Schema) (sheet : Sheet)
    (table : LocalizationTable) (key : String) : Prop :=
  table.contains key = true ∨
    ∀ name ∈ rules.detectedFields schema sheet, ∀ text n,
      key ≠ LocalizationTable.suffixed
        (Localization.keyBase name text rules.settings.summaryWords) n

/-- Where all keys that stand in the columns are safe, they stay where they are and no cell gets
one of them. -/
theorem not_captures_of_safe (rules : LocalizationRules) (schema : Schema) (sheet : Sheet)
    (table : LocalizationTable)
    (safe : ∀ row column key, HoldsKey rules schema sheet row column →
      sheet.cell? row column = some (Localization.keyMark ++ key) →
        IsSafe rules schema sheet table key) :
    (∀ row column, HoldsKey rules schema sheet row column →
      (rules.extract schema sheet table).sheet.cell? row column = sheet.cell? row column) ∧
      ∀ written kept, ¬ Captures rules schema sheet table written kept := by
  refine ⟨fun row column => cell?_extract_of_holdsKey table, fun written kept captures => ?_⟩
  obtain ⟨entry, -, reads, free, detected, ⟨n, base⟩, -⟩ := exists_entry_of_captures captures
  rcases safe kept.1 kept.2 entry.key captures.holds reads with taken | unrelated
  · rw [taken] at free
    cases free
  · exact unrelated entry.field detected entry.text n base

/-- A reserved key above a text that would get it, and a key of another field below. -/
theorem not_captures_of_safe_reserved :
    let rules : LocalizationRules := ⟨.standard, Pattern.standardKey⟩
    let schema : Schema := ⟨"Item", "",
      [⟨"Name", 0, .scalar .string, "string", .all, .localized, none, "", "Name@Lan"⟩], .empty⟩
    let sheet : Sheet := ⟨"Item",
      [["Name@Lan"], ["string"], [""], [""], ["LOC_NAME_SWORD"], ["Sword"], ["LOC_QUEST_12"]]⟩
    let table := LocalizationTable.empty.reserve ["NAME_SWORD"]
    let later := rules.extract schema sheet table
    LocalizationRules.ofSettings .standard = .ok rules ∧
      later.sheet.rows.drop Sheet.headerRows =
        [["LOC_NAME_SWORD"], ["LOC_NAME_SWORD_1"], ["LOC_QUEST_12"]] ∧
      ∀ written kept, ¬ Captures rules schema sheet table written kept := by
  intro rules schema sheet table later
  refine ⟨LocalizationRules.ofSettings_standardKey rfl, by decide +kernel,
    (not_captures_of_safe rules schema sheet table ?_).2⟩
  intro row column key _ reads
  obtain ⟨cells, present, inside⟩ := Option.bind_eq_some_iff.mp reads
  have listed := List.mem_flatten.mpr
    ⟨cells, List.mem_of_getElem? present, List.mem_of_getElem? inside⟩
  have known : key = "NAME_SWORD" ∨ key = "QUEST_12" := by
    have letters : (Localization.keyMark ++ key).toList ∈
        sheet.rows.flatten.map String.toList := List.mem_map_of_mem listed
    rw [String.toList_append] at letters
    simp [sheet, Localization.keyMark] at letters
    exact letters.imp String.toList_inj.mp String.toList_inj.mp
  rcases known with rfl | rfl
  · exact .inl (by decide)
  · refine .inr fun name detected text n same => ?_
    have only : rules.detectedFields schema sheet = ["Name"] := by decide +kernel
    rw [only, List.mem_singleton] at detected
    subst detected
    have initials := congrArg (fun key : String => key.toList.head?) same
    have front : Text.Casing.upperSnake "Name" = "NAME" := by decide +kernel
    cases n with
    | zero => simp [LocalizationTable.suffixed, Localization.toList_keyBase, front] at initials
    | succ n =>
        simp [LocalizationTable.toList_suffixed_succ, Localization.toList_keyBase, front]
          at initials

/-- A table that is new to a sheet does not know its keys: a text gets the key of the cell above,
which stands for that text afterwards. -/
theorem captures_standing :
    let rules : LocalizationRules := ⟨.standard, Pattern.standardKey⟩
    let schema : Schema := ⟨"Item", "",
      [⟨"Name", 0, .scalar .string, "string", .all, .localized, none, "", "Name@Lan"⟩], .empty⟩
    let sheet : Sheet := ⟨"Item",
      [["Name@Lan"], ["string"], [""], [""], ["LOC_NAME_SWORD"], ["Sword"]]⟩
    LocalizationRules.ofSettings .standard = .ok rules ∧
      Captures rules schema sheet .empty (5, 0) (4, 0) ∧
      (rules.extract schema sheet .empty).table.get? "NAME_SWORD" = some "Sword" := by
  intro rules schema sheet
  refine ⟨LocalizationRules.ofSettings_standardKey rfl,
    ⟨by decide +kernel, ⟨by decide, ?_, by decide +kernel⟩, by decide +kernel⟩,
    by decide +kernel⟩
  exact ⟨_, List.mem_cons_self, rfl, rfl⟩

end LocalizedTable

end SheetCompiler

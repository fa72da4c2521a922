import SheetCompiler.Proofs.Localization.Extraction

/-!
# Restoring localized sheets

An extraction issues one new key for each text that leaves the sheet and changes no other
cell, so the texts can be put back into their cells. Putting them back for the keys alone
needs more: a key that stood in the sheet before cannot be told from one that was issued.
-/

set_option autoImplicit false

namespace SheetCompiler

/-- What a cell reads once the texts stand in the place of some keys. -/
def Sheet.textFor (table : LocalizationTable) (keys : List String) (cell : String) : String :=
  ((keys.find? fun key => Localization.keyMark ++ key == cell).bind table.get?).getD cell

/-- Puts texts back for keys, wherever a cell reads one of the keys. -/
def Sheet.withTexts (table : LocalizationTable) (keys : List String) (sheet : Sheet) : Sheet :=
  sheet.mapCells (textFor table keys)

theorem Schema.columnOf?_of_mem {schema : Schema} {field : Field}
    (names : schema.fieldNames.Nodup) (member : field ∈ schema.fields) :
    schema.columnOf? field.name = some field.column := by
  unfold columnOf? field?
  cases found : schema.fields.find? fun other => other.name == field.name with
  | none =>
      have absent := List.find?_eq_none.mp found field member
      simp at absent
  | some other =>
      have same : other.name = field.name := by simpa using List.find?_some found
      obtain rfl := List.inj_on_of_nodup_map names (List.mem_of_find?_eq_some found) member same
      rfl

namespace Sheet

variable {issued : List IssuedText} (sheet : Sheet) (write : IssuedText → String)

theorem cell?_writeCells_place {text : IssuedText} (apart : (issued.map (·.place)).Nodup)
    (member : text ∈ issued) :
    (sheet.writeCells (issued.map fun text => (text.place, write text))).cell?
        text.row text.column =
      (sheet.cell? text.row text.column).map fun _ => write text := by
  have writes : (issued.map fun text => (text.place, write text)).map (·.1) =
      issued.map (·.place) := List.map_map
  exact cell?_writeCells_of_mem sheet (writes ▸ apart) (List.mem_map_of_mem member)

theorem cell?_writeCells_elsewhere {row column : Nat}
    (outside : (row, column) ∉ issued.map (·.place)) :
    (sheet.writeCells (issued.map fun text => (text.place, write text))).cell? row column =
      sheet.cell? row column := by
  have writes : (issued.map fun text => (text.place, write text)).map (·.1) =
      issued.map (·.place) := List.map_map
  exact cell?_writeCells_of_not_mem sheet (writes ▸ outside)

/-! ## Texts for keys -/

variable {table : LocalizationTable} {keys : List String}

theorem textFor_mark (table : LocalizationTable) {key : String} (listed : key ∈ keys) :
    textFor table keys (Localization.keyMark ++ key) =
      (table.get? key).getD (Localization.keyMark ++ key) := by
  unfold textFor
  cases found : keys.find? fun other =>
      Localization.keyMark ++ other == Localization.keyMark ++ key with
  | none =>
      have absent := List.find?_eq_none.mp found key listed
      simp at absent
  | some other =>
      have same : other = key := by simpa using List.find?_some found
      rw [same]
      rfl

theorem textFor_eq_self {cell : String}
    (unread : ∀ key ∈ keys, cell ≠ Localization.keyMark ++ key) :
    textFor table keys cell = cell := by
  have none : (keys.find? fun key => Localization.keyMark ++ key == cell) = none := by
    refine List.find?_eq_none.mpr fun key listed reads => ?_
    exact unread key listed (eq_of_beq reads).symm
  unfold textFor
  rw [none]
  rfl

end Sheet

namespace LocalizedTable

variable {rules : LocalizationRules} {schema : Schema} {sheet : Sheet}
  {table : LocalizationTable} {issued : List IssuedText} {later : LocalizedTable}

/-- What an extraction does: it issues a key of its own for each text that leaves the sheet,
and nothing else changes. -/
structure Extracts (rules : LocalizationRules) (schema : Schema) (sheet : Sheet)
    (table : LocalizationTable) (issued : List IssuedText) (later : LocalizedTable) : Prop where
  texts : issued.map (·.toMovedText) = rules.moves schema sheet
  entries : later.table.entries = table.entries ++ issued.map (·.entry schema.name)
  keys : later.schema.metadata.localizationKeys =
    schema.metadata.localizationKeys ++ issued.map (·.key)
  replaced : later.replaced = issued.length
  distinct : (issued.map (·.key)).Nodup
  fresh : ∀ text ∈ issued, table.contains text.key = false
  resolved : ∀ text ∈ issued, later.table.get? text.key = some text.text
  name : later.sheet.name = sheet.name
  rowCount : later.sheet.rowCount = sheet.rowCount
  apart : (issued.map (·.place)).Nodup
  former : ∀ text ∈ issued, (sheet.cell? text.row text.column).map Text.trimmed = some text.text
  marked : ∀ text ∈ issued, later.sheet.cell? text.row text.column = some text.mark
  kept : ∀ row column, (row, column) ∉ issued.map (·.place) →
    later.sheet.cell? row column = sheet.cell? row column

/-- The cells that an extraction does not look at or passes over. -/
def IsPassedOver (rules : LocalizationRules) (schema : Schema) (sheet : Sheet)
    (row column : Nat) : Prop :=
  row < Sheet.headerRows ∨
    (Text.trimmed (sheet.cell row column)).isEmpty = true ∨
    rules.isKey (Text.trimmed (sheet.cell row column)) = true ∨
    ∀ field ∈ schema.fields, field.column = column → rules.detects sheet field = false

theorem extracts_of_moves (sound : table.IsSound)
    (columns : (schema.fields.map (·.column)).Nodup)
    (moves : Moves ⟨schema, sheet, table, 0⟩ issued later)
    (texts : issued.map (·.toMovedText) = rules.moves schema sheet) :
    Extracts rules schema sheet table issued later := by
  have keys : (issued.map (·.entry schema.name)).map (·.key) = issued.map (·.key) :=
    List.map_map
  have places : issued.map (·.place) = (rules.moves schema sheet).map MovedText.place := by
    rw [← texts, List.map_map]
    rfl
  have apart : (issued.map (·.place)).Nodup := by
    rw [places]
    exact LocalizationRules.nodup_places_moves columns
  have former (text : IssuedText) (member : text ∈ issued) :
      (sheet.cell? text.row text.column).map Text.trimmed = some text.text := by
    have moved : text.toMovedText ∈ rules.moves schema sheet := by
      rw [← texts]
      exact List.mem_map_of_mem member
    exact LocalizationRules.cell?_of_mem_moves moved
  have listed (text : IssuedText) (member : text ∈ issued) :
      text.entry schema.name ∈ later.table.entries := by
    rw [moves.table.entries]
    exact List.mem_append_right _ (List.mem_map_of_mem member)
  exact
    { texts
      entries := moves.table.entries
      keys := moves.keys
      replaced := moves.replaced.trans (Nat.zero_add _)
      distinct := keys ▸ moves.table.distinct
      fresh := fun text member => moves.table.fresh _ (List.mem_map_of_mem member)
      resolved := fun text member =>
        (sound.issues moves.table).get?_key (listed text member)
      name := by rw [moves.sheet, Sheet.name_writeCells]
      rowCount := by rw [moves.sheet, Sheet.rowCount_writeCells]
      apart
      former
      marked := fun text member => by
        obtain ⟨cell, present, -⟩ := Option.map_eq_some_iff.mp (former text member)
        rw [moves.sheet, Sheet.cell?_writeCells_place sheet _ apart member, present]
        rfl
      kept := fun row column outside => by
        rw [moves.sheet]
        exact Sheet.cell?_writeCells_elsewhere sheet _ outside }

theorem exists_extracts (rules : LocalizationRules) (sheet : Sheet) (sound : table.IsSound)
    (names : schema.fieldNames.Nodup) (columns : (schema.fields.map (·.column)).Nodup) :
    ∃ issued, Extracts rules schema sheet table issued (rules.extract schema sheet table) := by
  obtain ⟨issued, moves, texts⟩ := exists_moves_of_distinct rules
    (schema.fields.filter (rules.detects sheet)) ⟨schema, sheet, table, 0⟩ sheet
    ((List.filter_sublist.map _).nodup columns)
    (fun _ kept => Schema.columnOf?_of_mem names (List.mem_of_mem_filter kept))
    (fun _ _ => rfl)
  exact ⟨issued, extracts_of_moves sound columns moves texts⟩

namespace Extracts

theorem mem_moves (extracts : Extracts rules schema sheet table issued later)
    {text : IssuedText} (member : text ∈ issued) : text.toMovedText ∈ rules.moves schema sheet := by
  rw [← extracts.texts]
  exact List.mem_map_of_mem member

theorem entry_mem (extracts : Extracts rules schema sheet table issued later)
    {text : IssuedText} (member : text ∈ issued) :
    text.entry schema.name ∈ later.table.entries := by
  rw [extracts.entries]
  exact List.mem_append_right _ (List.mem_map_of_mem member)

theorem not_passedOver (extracts : Extracts rules schema sheet table issued later)
    {text : IssuedText} (member : text ∈ issued) :
    ¬ IsPassedOver rules schema sheet text.row text.column := by
  obtain ⟨field, listed, detected, inside⟩ :=
    LocalizationRules.mem_moves.mp (extracts.mem_moves member)
  obtain ⟨-, located, data, -, reads, visible, plain⟩ := LocalizationRules.mem_movesIn.mp inside
  rw [← located] at reads
  rintro (header | blank | key | undetected)
  · exact absurd header (Nat.not_lt.mpr data)
  · rw [← reads, visible] at blank
    cases blank
  · rw [← reads, plain] at key
    cases key
  · rw [undetected field listed located.symm] at detected
    cases detected

theorem cell?_of_passedOver (extracts : Extracts rules schema sheet table issued later)
    {row column : Nat} (passed : IsPassedOver rules schema sheet row column) :
    later.sheet.cell? row column = sheet.cell? row column := by
  refine extracts.kept row column fun inside => ?_
  obtain ⟨text, member, here⟩ := List.mem_map.mp inside
  obtain ⟨rfl, rfl⟩ := Prod.mk.inj here
  exact extracts.not_passedOver member passed

/-- The texts go back into the cells that their keys were issued for. -/
theorem restores_places (extracts : Extracts rules schema sheet table issued later) :
    (later.sheet.writeCells (issued.map fun text => (text.place, text.text))).trimCells =
      sheet.trimCells := by
  rw [Sheet.trimCells_eq_mapCells, Sheet.trimCells_eq_mapCells]
  refine Sheet.eq_of_cell? ((Sheet.name_writeCells _ _).trans extracts.name) ?_ fun row column => ?_
  · rw [Sheet.rowCount_mapCells, Sheet.rowCount_writeCells, extracts.rowCount,
      Sheet.rowCount_mapCells]
  · rw [Sheet.cell?_mapCells, Sheet.cell?_mapCells]
    by_cases inside : (row, column) ∈ issued.map (·.place)
    · obtain ⟨text, member, here⟩ := List.mem_map.mp inside
      obtain ⟨rfl, rfl⟩ := Prod.mk.inj here
      have former := extracts.former text member
      obtain ⟨cell, -, trims⟩ := Option.map_eq_some_iff.mp former
      rw [Sheet.cell?_writeCells_place _ _ extracts.apart member, extracts.marked text member,
        former, ← trims]
      exact congrArg some (Text.trimmed_trimmed cell)
    · rw [Sheet.cell?_writeCells_elsewhere _ _ inside, extracts.kept row column inside]

/-- The texts go back for the keys wherever they stand, as long as none of the keys stood in
a cell that was left alone. -/
theorem restores_keys (extracts : Extracts rules schema sheet table issued later)
    (unread : ∀ row column, (row, column) ∉ issued.map (·.place) →
      ∀ text ∈ issued, sheet.cell? row column ≠ some text.mark) :
    (later.sheet.withTexts later.table (issued.map (·.key))).trimCells = sheet.trimCells := by
  rw [Sheet.trimCells_eq_mapCells, Sheet.trimCells_eq_mapCells]
  refine Sheet.eq_of_cell? extracts.name ?_ fun row column => ?_
  · rw [Sheet.rowCount_mapCells, Sheet.withTexts, Sheet.rowCount_mapCells, extracts.rowCount,
      Sheet.rowCount_mapCells]
  · rw [Sheet.withTexts, Sheet.cell?_mapCells, Sheet.cell?_mapCells, Sheet.cell?_mapCells]
    by_cases inside : (row, column) ∈ issued.map (·.place)
    · obtain ⟨text, member, here⟩ := List.mem_map.mp inside
      obtain ⟨rfl, rfl⟩ := Prod.mk.inj here
      have former := extracts.former text member
      obtain ⟨cell, -, trims⟩ := Option.map_eq_some_iff.mp former
      rw [extracts.marked text member, former, Option.map_some, IssuedText.mark,
        Sheet.textFor_mark _ (List.mem_map_of_mem member), extracts.resolved text member, ← trims]
      exact congrArg some (Text.trimmed_trimmed cell)
    · rw [extracts.kept row column inside]
      cases read : sheet.cell? row column with
      | none => rfl
      | some cell =>
          have plain : Sheet.textFor later.table (issued.map (·.key)) cell = cell := by
            refine Sheet.textFor_eq_self fun key listed reads => ?_
            obtain ⟨text, member, rfl⟩ := List.mem_map.mp listed
            exact unread row column inside text member (read.trans (congrArg some reads))
          rw [Option.map_some, plain]

end Extracts

/-- An extraction into a table that can be built up issues a new key for each text that it
moves and passes over all other cells. Its texts go back into their cells, and they go back
for their keys where none of these stood in a cell that was left alone. -/
theorem extract_reversible (rules : LocalizationRules) (schema : Schema) (sheet : Sheet)
    (table : LocalizationTable) (names : schema.fieldNames.Nodup)
    (columns : (schema.fields.map (·.column)).Nodup) (reachable : table.Reachable) :
    let later := rules.extract schema sheet table
    ∃ issued : List IssuedText,
      Extracts rules schema sheet table issued later ∧
      (∀ row column, IsPassedOver rules schema sheet row column →
        later.sheet.cell? row column = sheet.cell? row column) ∧
      (later.sheet.writeCells (issued.map fun text => (text.place, text.text))).trimCells =
        sheet.trimCells ∧
      ((∀ row column, (row, column) ∉ issued.map (·.place) →
          ∀ text ∈ issued, sheet.cell? row column ≠ some text.mark) →
        (later.sheet.withTexts later.table (issued.map (·.key))).trimCells =
          sheet.trimCells) := by
  intro later
  obtain ⟨issued, extracts⟩ := exists_extracts rules sheet reachable.isSound names columns
  exact ⟨issued, extracts, fun _ _ => extracts.cell?_of_passedOver, extracts.restores_places,
    extracts.restores_keys⟩

/-- A text whose key is reserved, below a key that is kept. -/
theorem extract_reversible_reserved :
    let rules := (LocalizationRules.ofSettings .standard).toOption.get (by decide +kernel)
    let schema : Schema := ⟨"Item", "",
      [⟨"Name", 0, .scalar .string, "string", .all, .localized, none, "", "Name@Lan"⟩], .empty⟩
    let sheet : Sheet := ⟨"Item",
      [["Name@Lan"], ["string"], [""], [""], ["LOC_NAME_SWORD"], [" Sword "]]⟩
    let later := rules.extract schema sheet (LocalizationTable.empty.reserve ["NAME_SWORD"])
    (later.sheet.withTexts later.table later.schema.metadata.localizationKeys).trimCells =
      sheet.trimCells := by
  intro rules schema sheet later
  obtain ⟨issued, extracts, -, -, restores⟩ := extract_reversible rules schema sheet
    (LocalizationTable.empty.reserve ["NAME_SWORD"]) (by decide) (by decide)
    (.reserve ["NAME_SWORD"] .empty)
  have keys : later.schema.metadata.localizationKeys = issued.map (·.key) := extracts.keys
  have issue : later.schema.metadata.localizationKeys = ["NAME_SWORD_1"] := by decide +kernel
  rw [keys]
  refine restores fun row column _ text member reads => ?_
  have key : text.key ∈ ["NAME_SWORD_1"] := by
    rw [← issue, keys]
    exact List.mem_map_of_mem member
  rw [IssuedText.mark, List.mem_singleton.mp key] at reads
  obtain ⟨cells, present, inside⟩ := Option.bind_eq_some_iff.mp reads
  have listed := List.mem_flatten.mpr
    ⟨cells, List.mem_of_getElem? present, List.mem_of_getElem? inside⟩
  exact absurd listed (by decide +kernel)

/-- A key that stood in the sheet cannot be told from an issued one: texts are put back for
both of them, and a sheet in which they change places leaves the same behind. -/
theorem extract_not_reversible_ownKey :
    let rules := (LocalizationRules.ofSettings .standard).toOption.get (by decide +kernel)
    let schema : Schema := ⟨"Item", "",
      [⟨"Name", 0, .scalar .string, "string", .all, .localized, none, "", "Name@Lan"⟩], .empty⟩
    let sheet : Sheet := ⟨"Item",
      [["Name@Lan"], ["string"], [""], [""], ["Sword"], ["LOC_NAME_SWORD"]]⟩
    let other : Sheet := ⟨"Item",
      [["Name@Lan"], ["string"], [""], [""], ["LOC_NAME_SWORD"], ["Sword"]]⟩
    let later := rules.extract schema sheet .empty
    (later.sheet.withTexts later.table later.schema.metadata.localizationKeys).trimCells ≠
        sheet.trimCells ∧
      later = rules.extract schema other .empty ∧ sheet.trimCells ≠ other.trimCells := by
  decide +kernel

end LocalizedTable

end SheetCompiler

import SheetCompiler.Proofs.Localization.KeyShape
import SheetCompiler.Proofs.Localization.Repetition
import SheetCompiler.Proofs.Pipeline.Payload
import SheetCompiler.Proofs.Sheet.Settled

/-!
# Processing processed tables

What the processors of data leave in the cells of a table: normalized texts and keys. With
the standard key pattern and on a settled sheet the same processors find the same fields
there, change no cell, and move no text.
-/

set_option autoImplicit false

namespace SheetCompiler

open Text

/-- Fields without counts, which are the only ones that can be localized. -/
def Field.IsUnshaped (field : Field) : Prop := field.kind = .plain ∨ field.kind = .localized

namespace Standard

variable {settings : StandardSettings} {schema resolved : Schema} {source sheet : Sheet}
  {moved : LocalizedTable} {row column : Nat}

/-! ## Localization -/

theorem localized_cases (completes : localized settings schema sheet = .ok moved) :
    (settings.localization.enabled = false ∧ moved = ⟨schema, sheet, .empty, 0⟩) ∨
      (settings.localization.enabled = true ∧
        ∃ rules, LocalizationRules.ofSettings settings.localization = .ok rules ∧
          moved = rules.extract schema sheet
            (LocalizationTable.empty.reserve settings.reserved)) := by
  unfold localized at completes
  cases enabled : settings.localization.enabled with
  | false =>
      rw [enabled] at completes
      exact .inl ⟨rfl, (Except.ok.inj completes).symm⟩
  | true =>
      rw [enabled] at completes
      cases read : LocalizationRules.ofSettings settings.localization with
      | error fault =>
          rw [read] at completes
          cases completes
      | ok rules =>
          rw [read] at completes
          exact .inr ⟨rfl, rules, rfl, (Except.ok.inj completes).symm⟩

/-- The standard key pattern is the one of the settings. -/
def HasStandardKeys (settings : StandardSettings) : Prop :=
  settings.localization.keyPattern = LocalizationSettings.standard.keyPattern

theorem HasStandardKeys.ofSettings (standard : HasStandardKeys settings) :
    LocalizationRules.ofSettings settings.localization =
      .ok ⟨settings.localization, Pattern.standardKey⟩ :=
  LocalizationRules.ofSettings_standardKey standard

/-- A table whose fields have names and columns of their own, and names of ASCII characters. -/
structure IsProper (schema : Schema) : Prop where
  names : schema.fieldNames.Nodup
  columns : (schema.fields.map (·.column)).Nodup
  plain : ∀ name ∈ schema.fieldNames, Localization.IsPlain name
  texts : ∀ field ∈ schema.fields, field.LocalizesText

theorem isProper_resolved {nameSpace : String} {diagnostics : List Diagnostic}
    (resolves : Schema.ofSheet source nameSpace = .ok (resolved, diagnostics))
    (names : resolved.fieldNames.Nodup) : IsProper resolved :=
  ⟨names, Schema.columns_nodup resolves, Schema.isPlain_names resolves,
    Schema.localizesText resolves⟩

theorem isUnshaped_of_detects {rules : LocalizationRules} {field : Field}
    (detected : rules.detects sheet field = true) : field.IsUnshaped := by
  unfold LocalizationRules.detects at detected
  split at detected
  · rename_i kind
    exact .inr kind
  · rename_i kind
    exact .inl kind
  · cases detected

/-- A data cell of a localized field that holds a key. -/
structure IsMarked (schema : Schema) (sheet : Sheet) (row column : Nat) : Prop where
  data : Sheet.headerRows ≤ row
  field : ∃ field ∈ schema.fields,
    field.column = column ∧ field.IsUnshaped ∧ field.type = FieldType.text
  key : ∃ key, Localization.IsKey key ∧
    sheet.cell? row column = some (Localization.keyMark ++ key)

/-- Localization leaves a cell as it is, or a key in it. -/
theorem cell?_localized (proper : IsProper schema)
    (completes : localized settings schema sheet = .ok moved) (row column : Nat) :
    moved.sheet.cell? row column = sheet.cell? row column ∨
      IsMarked schema moved.sheet row column := by
  rcases localized_cases completes with ⟨-, rfl⟩ | ⟨-, rules, -, rfl⟩
  · exact .inl rfl
  · obtain ⟨issued, extracts⟩ := LocalizedTable.exists_extracts rules sheet
      (LocalizationTable.isSound_empty.reserve settings.reserved) proper.names proper.columns
    have keys := LocalizedTable.hasKeys_extract rules schema sheet
      (LocalizationTable.empty.reserve settings.reserved) proper.plain nofun
    by_cases inside : (row, column) ∈ issued.map (·.place)
    · obtain ⟨text, listed, here⟩ := List.mem_map.mp inside
      obtain ⟨rfl, rfl⟩ := Prod.mk.inj here
      obtain ⟨field, member, detected, within⟩ :=
        LocalizationRules.mem_moves.mp (extracts.mem_moves listed)
      obtain ⟨-, located, data, -⟩ := LocalizationRules.mem_movesIn.mp within
      exact .inr ⟨data,
        ⟨field, member, located.symm, isUnshaped_of_detects detected,
          type_of_detects (proper.texts field member) detected⟩,
        ⟨text.key, keys _ (extracts.entry_mem listed), extracts.marked text listed⟩⟩
    · exact .inl (extracts.kept row column inside)

/-- Localization without detection. -/
def IsManual (settings : StandardSettings) : Prop :=
  settings.localization.enabled = true → settings.localization.autoDetect = false

/-- A table that is localized again, where nothing is left to move. -/
structure Relocalizes (settings : StandardSettings) (former later : LocalizedTable) : Prop where
  sheet : later.sheet = former.sheet
  entries : later.table.entries = []
  unmarked : later.schema.fields.map Field.unmarked = former.schema.fields.map Field.unmarked
  manual : IsManual settings → later.schema.fields = former.schema.fields

theorem localized_again (standard : HasStandardKeys settings) (proper : IsProper schema)
    (completes : localized settings schema sheet = .ok moved) :
    ∃ again, localized settings schema moved.sheet = .ok again ∧
      Relocalizes settings moved again := by
  have sound := LocalizationTable.isSound_empty.reserve settings.reserved
  rcases localized_cases completes with ⟨disabled, rfl⟩ | ⟨enabled, rules, read, rfl⟩
  · refine ⟨⟨schema, sheet, .empty, 0⟩, ?_, rfl, rfl, rfl, fun _ => rfl⟩
    unfold localized
    rw [disabled]
    rfl
  · have same := read
    rw [standard.ofSettings] at same
    obtain rfl := Except.ok.inj same
    obtain ⟨issued, extracts⟩ := LocalizedTable.exists_extracts
      ⟨settings.localization, Pattern.standardKey⟩ sheet sound proper.names proper.columns
    have keys := LocalizedTable.hasKeys_extract ⟨settings.localization, Pattern.standardKey⟩
      schema sheet (LocalizationTable.empty.reserve settings.reserved) proper.plain nofun
    have again := extracts.again sound proper.names proper.columns fun text listed => by
      have shape : Localization.IsKey text.key := keys _ (extracts.entry_mem listed)
      rw [IssuedText.mark, shape.trimmed_mark]
      exact shape.isFound
    refine ⟨_, ?_, again.sheet_of_nil, again.entries, ?_, ?_⟩
    · unfold localized
      rw [enabled, if_pos rfl, read]
      rfl
    · rw [LocalizedTable.unmarked_extract, LocalizedTable.unmarked_extract]
    · intro manual
      rw [LocalizedTable.fields_extract (manual enabled) proper.names,
        LocalizedTable.fields_extract (manual enabled) proper.names]

/-! ## Normalization -/

theorem isUnshaped_linked {known : KnownTypes} {origin : Field} {texts : List String}
    (unshaped : (markReference known (origin.countCells texts)).IsUnshaped) :
    markReference known (origin.countCells texts) = origin ∧ origin.IsUnshaped := by
  obtain ⟨name, column, type, declared, scope, kind, defaultText, description, header⟩ := origin
  unfold Field.IsUnshaped at unshaped
  cases kind with
  | plain => exact ⟨rfl, .inl rfl⟩
  | localized => exact ⟨rfl, .inr rfl⟩
  | reference target | array stats | matrix stats | map entry stats =>
      rcases unshaped with plain | localized
      · cases plain
      · cases localized

/-- An unshaped field is not changed by counting and linking. -/
theorem mem_of_isUnshaped {known : KnownTypes} {field : Field}
    (columns : (resolved.fields.map (·.column)).Nodup)
    (member : field ∈ (normalized known resolved source).1.fields) (unshaped : field.IsUnshaped) :
    field ∈ resolved.fields := by
  have fields : (normalized known resolved source).1.fields = _ :=
    congrArg (List.map (markReference known)) (Sheet.counts_normalizeFields source columns)
  rw [fields, List.map_map] at member
  obtain ⟨origin, listed, rfl⟩ := List.mem_map.mp member
  have same := isUnshaped_linked unshaped
  rw [Function.comp_apply, same.1]
  exact listed

theorem isProper_normalized (known : KnownTypes) (source : Sheet) (proper : IsProper resolved) :
    IsProper (normalized known resolved source).1 := by
  have outline := outline_normalized known resolved source
  have names := Schema.fieldNames_eq_of_outline outline
  refine ⟨names ▸ proper.names, ?_, names ▸ proper.plain, localizesText_normalized proper.texts⟩
  rw [Field.map_eq_of_outline (fun _ => rfl) outline]
  exact proper.columns

/-! ## What is left in the cells -/

/-- A sheet in which fields have normalized cells and keys, and all else is as it was. -/
structure Follows (schema : Schema) (source later : Sheet) : Prop where
  name : later.name = source.name
  rowCount : later.rowCount = source.rowCount
  header : later.rows.take Sheet.headerRows = source.rows.take Sheet.headerRows
  others : ∀ row column, column ∉ schema.fields.map (·.column) →
    later.cell? row column = source.cell? row column
  cells : ∀ field ∈ schema.fields, ∀ row, Sheet.headerRows ≤ row →
    later.cell? row field.column =
        (source.cell? row field.column).map (fun text => (field.reportOn text).normalized) ∨
      field.IsUnshaped ∧ field.type = FieldType.text ∧
        ∃ key, Localization.IsKey key ∧
          later.cell? row field.column = some (Localization.keyMark ++ key)

theorem follows_processed (proper : IsProper resolved)
    (completes : processed settings resolved source = .ok moved) :
    Follows resolved source moved.sheet := by
  unfold processed at completes
  dsimp only at completes
  have frame := localized_frame completes
  have places := cell?_localized (isProper_normalized settings.known source proper) completes
  have normal : (normalized settings.known resolved source).2 =
      (source.normalizeFields resolved.fields).2.1 := rfl
  have agree := Sheet.agreeOff_normalizeFields source resolved.fields
  have count : moved.sheet.rowCount = (source.normalizeFields resolved.fields).2.1.rowCount :=
    frame.sheet.rowCount
  rw [normal] at places
  -- a key stands in the column of a field that was resolved
  have origin {row column : Nat}
      (marked : IsMarked (normalized settings.known resolved source).1 moved.sheet row column) :
      ∃ field ∈ resolved.fields,
        field.column = column ∧ field.IsUnshaped ∧ field.type = FieldType.text := by
    obtain ⟨field, member, located, unshaped, text⟩ := marked.field
    exact ⟨field, mem_of_isUnshaped proper.columns member unshaped, located, unshaped, text⟩
  refine ⟨frame.sheet.name.trans agree.name, count.trans agree.rowCount, ?_, ?_, ?_⟩
  · refine (Sheet.header_eq_of_cell? count fun row column above => ?_).trans
      (Sheet.take_normalizeFields source resolved.fields)
    rcases places row column with same | marked
    · exact same
    · exact absurd above (Nat.not_lt.mpr marked.data)
  · intro row column apart
    rcases places row column with same | marked
    · exact same.trans (agree.cell? row column apart)
    · obtain ⟨field, member, located, -⟩ := origin marked
      exact absurd (List.mem_map.mpr ⟨field, member, located⟩) apart
  · intro field member row data
    rcases places row field.column with same | marked
    · exact .inl (same.trans (Sheet.cell?_normalizeFields source proper.columns member data))
    · obtain ⟨other, listed, located, unshaped, text⟩ := origin marked
      obtain rfl := List.inj_on_of_nodup_map proper.columns listed member located
      exact .inr ⟨unshaped, text, marked.key⟩

namespace Follows

variable {later : Sheet}

/-- Normalized cells and keys have no blanks around them. -/
theorem trimmed_eq (follows : Follows schema source later)
    (tight : ∀ row column text, source.cell? row column = some text → trimmed text = text)
    (row column : Nat) (text : String) (reads : later.cell? row column = some text) :
    trimmed text = text := by
  by_cases above : row < Sheet.headerRows
  · rw [Sheet.cell?_eq_of_header follows.header above] at reads
    exact tight row column text reads
  · by_cases inside : column ∈ schema.fields.map (·.column)
    · obtain ⟨field, member, rfl⟩ := List.mem_map.mp inside
      rcases follows.cells field member row (Nat.not_lt.mp above) with
        normal | ⟨-, -, key, shape, mark⟩
      · rw [normal] at reads
        obtain ⟨former, -, rfl⟩ := Option.map_eq_some_iff.mp reads
        exact field.trimmed_reportOn former
      · rw [mark] at reads
        obtain rfl := Option.some.inj reads
        exact shape.trimmed_mark
    · rw [follows.others row column inside] at reads
      exact tight row column text reads

theorem normalized_reportOn (follows : Follows schema source later)
    (settled : later.IsSettled schema.fields) {field : Field} (member : field ∈ schema.fields)
    (data : Sheet.headerRows ≤ row) {text : String}
    (reads : later.cell? row field.column = some text) :
    (field.reportOn text).normalized = text := by
  have settles := settled.cells field member row data text reads
  rcases follows.cells field member row data with normal | ⟨-, plain, key, shape, mark⟩
  · rw [normal] at reads
    obtain ⟨former, -, rfl⟩ := Option.map_eq_some_iff.mp reads
    rw [Field.reportOn_normalized settles]
  · rw [mark] at reads
    obtain rfl := Option.some.inj reads
    rw [Field.reportOn, Field.sourceText_of_visible (Localization.visible_mark key), plain]
    exact shape.trimmed_mark

/-- The cells of a settled sheet are counted like those of the sheet it was made from. -/
theorem fields_eq (follows : Follows schema source later)
    (settled : later.IsSettled schema.fields)
    (columns : (schema.fields.map (·.column)).Nodup) :
    (later.normalizeFields schema.fields).1 = (source.normalizeFields schema.fields).1 := by
  have counts : later.dataRowCount = source.dataRowCount := by
    rw [Sheet.dataRowCount, follows.rowCount, Sheet.dataRowCount]
  rw [Sheet.counts_normalizeFields later columns, Sheet.counts_normalizeFields source columns]
  refine List.map_congr_left fun field member => ?_
  by_cases unshaped : field.IsUnshaped
  · rw [Field.countCells_of_unshaped unshaped, Field.countCells_of_unshaped unshaped]
  · refine Field.countCells_congr ?_
    rw [Sheet.columnTexts_eq_range, Sheet.columnTexts_eq_range, counts, List.map_map, List.map_map,
      List.map_map, List.map_map]
    refine List.map_congr_left fun index _ => ?_
    have data : Sheet.headerRows ≤ Sheet.headerRows + index := Nat.le_add_right _ _
    simp only [Function.comp_apply]
    rcases follows.cells field member (Sheet.headerRows + index) data with normal | ⟨other, -⟩
    · unfold Sheet.cell
      rw [← Sheet.cell?, ← Sheet.cell?, normal]
      cases reads : source.cell? (Sheet.headerRows + index) field.column with
      | none => rfl
      | some former =>
          rw [reads] at normal
          exact Field.reportOn_normalized (settled.cells field member _ data _ normal)
    · exact absurd other unshaped

theorem normalized_eq (follows : Follows schema source later)
    (settled : later.IsSettled schema.fields)
    (columns : (schema.fields.map (·.column)).Nodup) (known : KnownTypes) :
    normalized known schema later = ((normalized known schema source).1, later) := by
  have kept := Sheet.normalizeFields_eq_self fun field member row data text reads =>
    follows.normalized_reportOn settled member data reads
  have fields := follows.fields_eq settled columns
  unfold normalized
  dsimp only
  rw [kept, fields]

theorem cleaned_eq (follows : Follows schema source later)
    (tight : ∀ row column text, source.cell? row column = some text → trimmed text = text)
    (rows : ∀ cells ∈ later.rows.drop Sheet.headerRows, Sheet.isBlankRow cells = false) :
    cleaned later = later := by
  rw [cleaned, Sheet.trimCells_eq_self (follows.trimmed_eq tight), Sheet.dropBlankRows_eq_self rows]

end Follows

/-- The processors of data leave a settled table as it is. -/
theorem processed_again (standard : HasStandardKeys settings) (proper : IsProper resolved)
    (completes : processed settings resolved source = .ok moved)
    (settled : moved.sheet.IsSettled resolved.fields) :
    ∃ again, processed settings resolved moved.sheet = .ok again ∧
      Relocalizes settings moved again := by
  have follows := follows_processed proper completes
  unfold processed at completes ⊢
  dsimp only at completes ⊢
  rw [follows.normalized_eq settled proper.columns]
  exact localized_again standard (isProper_normalized settings.known source proper) completes

end Standard

end SheetCompiler

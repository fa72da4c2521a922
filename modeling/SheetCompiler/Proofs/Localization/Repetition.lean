import SheetCompiler.Proofs.Localization.Restoration

/-!
# Localization of localized sheets

Where the key pattern finds the issued keys behind their mark, nothing is left to move: a
field that is detected again was detected before, and all its cells are blank or keys.
Detection may only miss a field of which no prose is left.
-/

set_option autoImplicit false

namespace SheetCompiler

/-! ## Marks of fields -/

/-- A field as if it had never been localized. -/
def Field.unmarked (field : Field) : Field :=
  { field with kind := if field.kind = .localized then .plain else field.kind }

namespace LocalizedTable

variable {rules : LocalizationRules} {schema : Schema} {sheet : Sheet}
  {table : LocalizationTable} {issued : List IssuedText} {later : LocalizedTable}

theorem unmarked_markLocalized (field : Field) :
    (markLocalized field).unmarked = field.unmarked := by
  unfold markLocalized
  split
  · rename_i plain
    unfold Field.unmarked
    rw [eq_of_beq plain]
    rfl
  · rfl

theorem markLocalized_eq_self {field : Field} (marked : field.kind ≠ .plain) :
    markLocalized field = field := by
  unfold markLocalized
  rw [if_neg]
  simpa using marked

theorem fields_moveCell (rules : LocalizationRules) (name : String) (column : Nat)
    (state : LocalizedTable) (cell : Nat × String) :
    (moveCell rules name column state cell).schema.fields = state.schema.fields := by
  unfold moveCell
  dsimp only
  split <;> rfl

theorem fields_foldl_moveCell (rules : LocalizationRules) (name : String) (column : Nat)
    (cells : List (Nat × String)) (state : LocalizedTable) :
    (cells.foldl (moveCell rules name column) state).schema.fields = state.schema.fields := by
  induction cells generalizing state with
  | nil => rfl
  | cons cell cells ih =>
      rw [List.foldl_cons, ih, fields_moveCell]

/-- Moving the texts of a field only marks it. -/
theorem map_fields_moveField {α : Type} (rules : LocalizationRules) (state : LocalizedTable)
    (name : String) (read : Field → α)
    (marks : ∀ field ∈ state.schema.fields, field.name = name →
      read (markLocalized field) = read field) :
    (moveField rules state name).schema.fields.map read = state.schema.fields.map read := by
  have listed (schema : Schema) : (listField name schema).fields = schema.fields := by
    unfold listField
    dsimp only
    split <;> rfl
  unfold moveField
  split
  · rfl
  · dsimp only
    rw [listed, fields_foldl_moveCell]
    exact Schema.map_modifyField marks

theorem unmarked_extract (rules : LocalizationRules) (schema : Schema) (sheet : Sheet)
    (table : LocalizationTable) :
    (rules.extract schema sheet table).schema.fields.map Field.unmarked =
      schema.fields.map Field.unmarked := by
  have moved (names : List String) (state : LocalizedTable) :
      (names.foldl (moveField rules) state).schema.fields.map Field.unmarked =
        state.schema.fields.map Field.unmarked := by
    induction names generalizing state with
    | nil => rfl
    | cons name names ih =>
        refine (ih (moveField rules state name)).trans (map_fields_moveField rules state name _ ?_)
        exact fun field _ _ => unmarked_markLocalized field
  exact moved _ ⟨schema, sheet, table, 0⟩

/-- Without detection only fields that are marked already are localized. -/
theorem fields_extract (manual : rules.settings.autoDetect = false)
    (names : schema.fieldNames.Nodup) (sheet : Sheet) (table : LocalizationTable) :
    (rules.extract schema sheet table).schema.fields = schema.fields := by
  have marked (field : Field) (detected : rules.detects sheet field = true) :
      field.kind ≠ .plain := by
    intro plain
    unfold LocalizationRules.detects at detected
    rw [plain, manual] at detected
    cases detected
  have moved (fields : List Field) (within : ∀ field ∈ fields, field ∈ schema.fields)
      (detected : ∀ field ∈ fields, rules.detects sheet field = true) (state : LocalizedTable)
      (same : state.schema.fields = schema.fields) :
      ((fields.map (·.name)).foldl (moveField rules) state).schema.fields = schema.fields := by
    induction fields generalizing state with
    | nil => exact same
    | cons field fields ih =>
        rw [List.forall_mem_cons] at within detected
        refine ih within.2 detected.2 (moveField rules state field.name) ?_
        have kept := map_fields_moveField rules state field.name id
          fun other member alike => by
            rw [same] at member
            obtain rfl := List.inj_on_of_nodup_map names member within.1 alike
            exact markLocalized_eq_self (marked other detected.1)
        rw [List.map_id, List.map_id] at kept
        exact kept.trans same
  exact moved _ (fun _ kept => List.mem_of_mem_filter kept)
    (fun _ kept => (List.mem_filter.mp kept).2) ⟨schema, sheet, table, 0⟩ rfl

/-! ## Nothing left -/

namespace Extracts

/-- The columns of other fields than the detected ones stay as they are. -/
theorem columnTexts_eq (extracts : Extracts rules schema sheet table issued later)
    (columns : (schema.fields.map (·.column)).Nodup) {field : Field}
    (member : field ∈ schema.fields) (undetected : rules.detects sheet field = false) :
    later.sheet.columnTexts field.column = sheet.columnTexts field.column := by
  have counts : later.sheet.dataRowCount = sheet.dataRowCount := by
    rw [Sheet.dataRowCount, extracts.rowCount, Sheet.dataRowCount]
  rw [Sheet.columnTexts_eq_range, Sheet.columnTexts_eq_range, counts]
  refine List.map_congr_left fun index _ => congrArg _ (congrArg (Option.getD · "") ?_)
  refine extracts.cell?_of_passedOver (.inr (.inr (.inr fun other listed same => ?_)))
  obtain rfl := List.inj_on_of_nodup_map columns listed member same
  exact undetected

theorem detects_of_later (extracts : Extracts rules schema sheet table issued later)
    (columns : (schema.fields.map (·.column)).Nodup) {field : Field}
    (member : field ∈ schema.fields) (detected : rules.detects later.sheet field = true) :
    rules.detects sheet field = true := by
  cases before : rules.detects sheet field with
  | true => rfl
  | false =>
      have texts := extracts.columnTexts_eq columns member before
      unfold LocalizationRules.detects LocalizationRules.sampleLooksLikeProse
        LocalizationRules.sample at detected before
      rw [texts, before] at detected
      cases detected

/-- All texts of detected fields have left the sheet. -/
theorem moves_later (extracts : Extracts rules schema sheet table issued later)
    (columns : (schema.fields.map (·.column)).Nodup)
    (found : ∀ text ∈ issued, rules.isKey (Text.trimmed text.mark) = true) :
    rules.moves schema later.sheet = [] := by
  refine List.eq_nil_iff_forall_not_mem.mpr fun moved again => ?_
  obtain ⟨field, member, detected, inside⟩ := LocalizationRules.mem_moves.mp again
  obtain ⟨named, located, data, bound, reads, visible, plain⟩ :=
    LocalizationRules.mem_movesIn.mp inside
  rw [← located] at reads
  by_cases issues : (moved.row, moved.column) ∈ issued.map (·.place)
  · obtain ⟨text, listed, here⟩ := List.mem_map.mp issues
    obtain ⟨row, column⟩ := Prod.mk.inj here
    have marked := extracts.marked text listed
    rw [row, column] at marked
    rw [Sheet.cell, ← Sheet.cell?, marked] at reads
    have key := found text listed
    change moved.text = Text.trimmed text.mark at reads
    rw [← reads, plain] at key
    cases key
  · have kept := congrArg (Option.getD · "") (extracts.kept moved.row moved.column issues)
    have former : moved ∈ rules.moves schema sheet := by
      refine LocalizationRules.mem_moves.mpr
        ⟨field, member, extracts.detects_of_later columns member detected, ?_⟩
      refine LocalizationRules.mem_movesIn.mpr
        ⟨named, located, data, extracts.rowCount ▸ bound, ?_, visible, plain⟩
      rw [← located, reads]
      exact congrArg Text.trimmed kept
    rw [← extracts.texts] at former
    obtain ⟨text, listed, rfl⟩ := List.mem_map.mp former
    exact issues (List.mem_map.mpr ⟨text, listed, rfl⟩)

theorem sheet_of_nil (extracts : Extracts rules schema sheet table [] later) :
    later.sheet = sheet :=
  Sheet.eq_of_cell? extracts.name extracts.rowCount fun row column =>
    extracts.kept row column List.not_mem_nil

/-- Extraction from a sheet that it has left behind moves nothing. -/
theorem again (extracts : Extracts rules schema sheet table issued later)
    {other : LocalizationTable} (sound : other.IsSound) (names : schema.fieldNames.Nodup)
    (columns : (schema.fields.map (·.column)).Nodup)
    (found : ∀ text ∈ issued, rules.isKey (Text.trimmed text.mark) = true) :
    Extracts rules schema later.sheet other [] (rules.extract schema later.sheet other) := by
  obtain ⟨more, second⟩ := exists_extracts rules later.sheet sound names columns
  have none := second.texts.trans (extracts.moves_later columns found)
  rw [List.map_eq_nil_iff] at none
  rw [none] at second
  exact second

end Extracts

end LocalizedTable

end SheetCompiler

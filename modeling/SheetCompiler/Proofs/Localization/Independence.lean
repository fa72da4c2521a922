import SheetCompiler.Proofs.Localization.Repetition

/-!
# Localization with different tables

Keys that are taken decide which keys a text gets, and nothing else: two extractions from one
sheet mark the same fields, move texts out of the same columns, and leave all other columns
alike. Names and columns of the fields need not differ for that.
-/

set_option autoImplicit false

namespace SheetCompiler

namespace LocalizedTable

variable {left right : LocalizedTable}

/-- A field of the column has an entry. -/
def LosesTexts (state : LocalizedTable) (column : Nat) : Prop :=
  ∃ entry ∈ state.table.entries, state.schema.columnOf? entry.field = some column

/-- Two tables that differ in their keys, and in the columns in which keys stand. -/
structure AlikeButKeys (left right : LocalizedTable) : Prop where
  fields : right.schema.fields = left.schema.fields
  losesTexts : ∀ column, right.LosesTexts column ↔ left.LosesTexts column
  sheet : Sheet.AgreeOff left.LosesTexts left.sheet right.sheet

variable (rules : LocalizationRules)

theorem fields_moveField (state : LocalizedTable) (name : String) :
    (moveField rules state name).schema.fields =
      (state.schema.modifyField name markLocalized).fields := by
  have listed (schema : Schema) : (listField name schema).fields = schema.fields := by
    unfold listField
    dsimp only
    split <;> rfl
  unfold moveField
  split
  · rename_i absent
    have none : (state.schema.fields.findIdx? fun field => field.name == name) = none := by
      rw [List.findIdx?_eq_none_iff]
      exact fun field member => by simpa using List.find?_eq_none.mp absent field member
    unfold Schema.modifyField
    rw [none]
  · dsimp only
    rw [listed, fields_foldl_moveCell]

/-- The texts of a column are moved where they were moved before or where some are left. -/
theorem losesTexts_moveField {state : LocalizedTable} {name : String} {column : Nat} :
    (moveField rules state name).LosesTexts column ↔
      state.LosesTexts column ∨
        state.schema.columnOf? name = some column ∧
          rules.movesIn state.sheet name column ≠ [] := by
  obtain ⟨issued, moves, texts⟩ := exists_moves_moveField rules state name
  have outline := (moveField_frame rules state name).outline
  unfold LosesTexts
  rw [moves.table.entries]
  constructor
  · rintro ⟨entry, listed, located⟩
    rw [Schema.columnOf?_eq_of_outline entry.field outline] at located
    rcases List.mem_append.mp listed with former | added
    · exact .inl ⟨entry, former, located⟩
    · obtain ⟨text, issues, rfl⟩ := List.mem_map.mp added
      have moved : text.toMovedText ∈ issued.map (·.toMovedText) := List.mem_map_of_mem issues
      rw [texts] at moved
      split at moved
      · cases moved
      · rename_i place found
        obtain rfl : text.field = name := (LocalizationRules.mem_movesIn.mp moved).1
        obtain rfl := Option.some.inj (found.symm.trans located)
        exact .inr ⟨found, List.ne_nil_of_mem moved⟩
  · rintro (⟨entry, former, located⟩ | ⟨located, some⟩)
    · refine ⟨entry, List.mem_append_left _ former, ?_⟩
      rw [Schema.columnOf?_eq_of_outline entry.field outline]
      exact located
    · rw [located] at texts
      dsimp only at texts
      obtain ⟨moved, listed⟩ := List.exists_mem_of_ne_nil _ some
      obtain ⟨named, -⟩ := LocalizationRules.mem_movesIn.mp listed
      rw [← texts] at listed
      obtain ⟨text, issues, rfl⟩ := List.mem_map.mp listed
      refine ⟨text.entry state.schema.name,
        List.mem_append_right _ (List.mem_map_of_mem issues), ?_⟩
      rw [Schema.columnOf?_eq_of_outline _ outline]
      exact (congrArg state.schema.columnOf? named).trans located

/-- A field without texts to move keeps its sheet. -/
theorem sheet_moveField_of_idle {state : LocalizedTable} {name : String} {column : Nat}
    (located : state.schema.columnOf? name = some column)
    (idle : rules.movesIn state.sheet name column = []) :
    (moveField rules state name).sheet = state.sheet := by
  obtain ⟨issued, moves, texts⟩ := exists_moves_moveField rules state name
  rw [located] at texts
  dsimp only at texts
  rw [idle, List.map_eq_nil_iff] at texts
  rw [moves.sheet, texts]
  rfl

variable {rules}

theorem AlikeButKeys.columnOf?_eq (alike : AlikeButKeys left right) (name : String) :
    right.schema.columnOf? name = left.schema.columnOf? name := by
  rw [Schema.columnOf?, Schema.field?, alike.fields]
  rfl

theorem AlikeButKeys.movesIn_eq (alike : AlikeButKeys left right) (name : String) {column : Nat}
    (whole : ¬ left.LosesTexts column) :
    rules.movesIn right.sheet name column = rules.movesIn left.sheet name column := by
  unfold LocalizationRules.movesIn
  rw [alike.sheet.columnTexts whole]

theorem AlikeButKeys.moveField (alike : AlikeButKeys left right) (name : String) :
    AlikeButKeys (moveField rules left name) (moveField rules right name) where
  fields := by
    rw [fields_moveField, fields_moveField]
    unfold Schema.modifyField
    rw [alike.fields]
    split
    · rfl
    · exact alike.fields
  losesTexts column := by
    rw [losesTexts_moveField, losesTexts_moveField, alike.losesTexts, alike.columnOf?_eq]
    by_cases lost : left.LosesTexts column
    · exact iff_of_true (.inl lost) (.inl lost)
    · rw [alike.movesIn_eq name lost]
  sheet := by
    have former := (moveField_frame rules left name).sheet
    have later := (moveField_frame rules right name).sheet
    refine ⟨later.name.trans (alike.sheet.name.trans former.name.symm),
      later.rowCount.trans (alike.sheet.rowCount.trans former.rowCount.symm), ?_⟩
    intro row column whole
    rw [losesTexts_moveField, not_or, not_and, not_not] at whole
    obtain ⟨kept, idle⟩ := whole
    have same := alike.sheet.cell? row column kept
    by_cases located : left.schema.columnOf? name = some column
    · -- no text is left in the column, on either side
      have moved := (alike.columnOf?_eq name).trans located
      have none := (alike.movesIn_eq name kept).trans (idle located)
      rw [sheet_moveField_of_idle rules located (idle located),
        sheet_moveField_of_idle rules moved none]
      exact same
    · have apart : ¬ right.schema.columnOf? name = some column :=
        (alike.columnOf?_eq name).symm ▸ located
      exact (later.cell? row column apart).trans
        (same.trans (former.cell? row column located).symm)

theorem AlikeButKeys.foldl_moveField (alike : AlikeButKeys left right) (names : List String) :
    AlikeButKeys (names.foldl (LocalizedTable.moveField rules) left)
      (names.foldl (LocalizedTable.moveField rules) right) := by
  induction names generalizing left right with
  | nil => exact alike
  | cons name names ih => exact ih (alike.moveField name)

end LocalizedTable

/-- Extractions into two tables without entries are alike but for their keys. -/
theorem LocalizationRules.extract_alikeButKeys (rules : LocalizationRules) (schema : Schema)
    (sheet : Sheet) {table other : LocalizationTable} (fresh : table.entries = [])
    (blank : other.entries = []) :
    LocalizedTable.AlikeButKeys (rules.extract schema sheet table)
      (rules.extract schema sheet other) := by
  have start : LocalizedTable.AlikeButKeys ⟨schema, sheet, table, 0⟩ ⟨schema, sheet, other, 0⟩ := by
    refine ⟨rfl, fun column => ?_, .refl _ sheet⟩
    unfold LocalizedTable.LosesTexts
    rw [fresh, blank]
  exact start.foldl_moveField _

end SheetCompiler

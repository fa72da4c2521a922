import SheetCompiler.Proofs.Localization.KeyShape
import SheetCompiler.Proofs.Localization.Restoration

/-!
# Cells that extraction spares

Blank cells and keys stay in a sheet, whatever table the texts go to, and whether or not two
fields share a name or a column. Once the texts of a field have been moved, its column has
nothing but such cells, as long as the key pattern finds the keys that were issued.
-/

set_option autoImplicit false

namespace SheetCompiler

/-- A text that extraction does not move: a blank one or a key. -/
def LocalizationRules.Spares (rules : LocalizationRules) (text : String) : Prop :=
  (Text.trimmed text).isEmpty = true ∨ rules.isKey (Text.trimmed text) = true

namespace LocalizedTable

variable {rules : LocalizationRules} {state : LocalizedTable} {name : String}
  {issued : List IssuedText} {row column : Nat}

theorem not_spares_of_mem_movesIn {sheet : Sheet} {moved : MovedText}
    (member : moved ∈ rules.movesIn sheet name column) :
    ¬ rules.Spares (sheet.cell moved.row column) := by
  obtain ⟨-, -, -, -, text, visible, plain⟩ := LocalizationRules.mem_movesIn.mp member
  unfold LocalizationRules.Spares
  rw [← text, visible, plain]
  simp

theorem mem_movesIn_of_not_spares {sheet : Sheet} (data : Sheet.headerRows ≤ row)
    (bound : row < sheet.rowCount) (moves : ¬ rules.Spares (sheet.cell row column)) :
    ⟨name, row, column, Text.trimmed (sheet.cell row column)⟩ ∈
      rules.movesIn sheet name column := by
  unfold LocalizationRules.Spares at moves
  rw [not_or, Bool.not_eq_true, Bool.not_eq_true] at moves
  exact LocalizationRules.mem_movesIn.mpr ⟨rfl, rfl, data, bound, rfl, moves⟩

/-- A spared cell keeps its text. -/
theorem cell?_moveField_of_spares (rules : LocalizationRules) (state : LocalizedTable)
    (name : String) (spared : rules.Spares (state.sheet.cell row column)) :
    (moveField rules state name).sheet.cell? row column = state.sheet.cell? row column := by
  obtain ⟨issued, moves, texts⟩ := exists_moves_moveField rules state name
  rw [moves.sheet]
  refine Sheet.cell?_writeCells_elsewhere _ _ fun inside => ?_
  obtain ⟨text, member, here⟩ := List.mem_map.mp inside
  obtain ⟨rfl, rfl⟩ := Prod.mk.inj here
  have moved : text.toMovedText ∈ issued.map (·.toMovedText) := List.mem_map_of_mem member
  rw [texts] at moved
  split at moved
  · cases moved
  · obtain ⟨-, located, -⟩ := LocalizationRules.mem_movesIn.mp moved
    rw [located] at spared
    exact not_spares_of_mem_movesIn moved spared

theorem spares_moveField (rules : LocalizationRules) (state : LocalizedTable) (name : String)
    (spared : rules.Spares (state.sheet.cell row column)) :
    rules.Spares ((moveField rules state name).sheet.cell row column) := by
  unfold Sheet.cell
  rw [← Sheet.cell?, cell?_moveField_of_spares rules state name spared]
  exact spared

theorem cell?_foldl_moveField_of_spares (names : List String) (state : LocalizedTable)
    (spared : rules.Spares (state.sheet.cell row column)) :
    (names.foldl (moveField rules) state).sheet.cell? row column =
      state.sheet.cell? row column := by
  induction names generalizing state with
  | nil => rfl
  | cons name names ih =>
      rw [List.foldl_cons, ih _ (spares_moveField rules state name spared)]
      exact cell?_moveField_of_spares rules state name spared

/-- The entries of the moved texts are those that have been added. -/
theorem GrowsBy.holds_of_moves {holds : LocalizationEntry → Prop} {former later : LocalizedTable}
    (grows : GrowsBy holds former later) (moves : Moves former issued later) :
    ∀ text ∈ issued, holds (text.entry former.schema.name) := by
  obtain ⟨added, entries, kind⟩ := grows
  rw [moves.table.entries] at entries
  intro text member
  exact kind _ (List.append_cancel_left entries ▸ List.mem_map_of_mem member)

/-- The key pattern finds all keys behind their mark. -/
def FindsKeys (rules : LocalizationRules) : Prop :=
  ∀ key, Localization.IsKey key → rules.isKey (Localization.keyMark ++ key) = true

/-- No data cell of the column has a text to move. -/
def IsEmptied (rules : LocalizationRules) (sheet : Sheet) (column : Nat) : Prop :=
  ∀ row, Sheet.headerRows ≤ row → row < sheet.rowCount → rules.Spares (sheet.cell row column)

theorem isEmptied_moveField (finds : FindsKeys rules) (plain : Localization.IsPlain name)
    (located : state.schema.columnOf? name = some column) :
    IsEmptied rules (moveField rules state name).sheet column := by
  intro row data bound
  obtain ⟨issued, moves, texts⟩ := exists_moves_moveField rules state name
  rw [located] at texts
  dsimp only at texts
  rw [moves.sheet, Sheet.rowCount_writeCells] at bound
  by_cases spared : rules.Spares (state.sheet.cell row column)
  · exact spares_moveField rules state name spared
  · have moved : ⟨name, row, column, Text.trimmed (state.sheet.cell row column)⟩ ∈
        rules.movesIn state.sheet name column := mem_movesIn_of_not_spares data bound spared
    rw [← texts] at moved
    obtain ⟨text, member, here⟩ := List.mem_map.mp moved
    have adds : Adds rules name fun entry => Localization.IsKey entry.key :=
      fun table text _ => (Localization.isKey_keyBase plain text _).freeKey table
    have key : Localization.IsKey text.key :=
      (growsBy_moveField adds state).holds_of_moves moves text member
    have apart : (issued.map (·.place)).Nodup := by
      have rows : ((rules.movesIn state.sheet name column).map (·.row)).Nodup :=
        LocalizationRules.nodup_rows_movesIn name column
      rw [← texts, List.map_map] at rows
      refine List.Nodup.of_map Prod.fst ?_
      rw [List.map_map]
      exact rows
    have written := Sheet.cell?_writeCells_place state.sheet IssuedText.mark apart member
    rw [← moves.sheet, congrArg MovedText.row here, congrArg MovedText.column here] at written
    dsimp only at written
    unfold Sheet.cell
    rw [← Sheet.cell?, written]
    cases state.sheet.cell? row column with
    | none => exact .inl rfl
    | some former =>
        refine .inr ?_
        rw [Option.map_some, Option.getD_some, IssuedText.mark, key.trimmed_mark]
        exact finds text.key key

end LocalizedTable

end SheetCompiler

import Mathlib.Data.List.Nodup
import SheetCompiler.Proofs.Localization.Frame
import SheetCompiler.Proofs.Localization.Table
import SheetCompiler.Proofs.Schema.Outline
import SheetCompiler.Proofs.Sheet.Writes
import SheetCompiler.Proofs.Text.Pieces

/-!
# What localization moves

Which texts extraction moves out of a sheet is known before it starts, as long as names and
columns of the fields differ. Each moved text has an entry with a key of its own, and the
key stands where the text was.
-/

set_option autoImplicit false

namespace SheetCompiler

/-! ## Moved texts -/

/-- A text that leaves its cell, trimmed. -/
structure MovedText where
  field : String
  row : Nat
  column : Nat
  text : String
  deriving DecidableEq, Repr

def MovedText.place (moved : MovedText) : Nat × Nat := (moved.row, moved.column)

/-- A moved text with the key that is issued for it. -/
structure IssuedText extends MovedText where
  key : String
  deriving DecidableEq, Repr

namespace IssuedText

def entry (table : String) (issued : IssuedText) : LocalizationEntry :=
  ⟨issued.key, issued.text, table, issued.field⟩

/-- What the cell of the text reads afterwards. -/
def mark (issued : IssuedText) : String := Localization.keyMark ++ issued.key

end IssuedText

namespace LocalizationRules

variable {rules : LocalizationRules} {sheet : Sheet} {schema : Schema}

/-- The text of a cell, unless it is blank or a key. -/
def moveOf? (rules : LocalizationRules) (name : String) (column : Nat) (cell : Nat × String) :
    Option MovedText :=
  let text := Text.trimmed cell.2
  if text.isEmpty || rules.isKey text then none else some ⟨name, cell.1, column, text⟩

/-- The texts that leave a column, row after row. -/
def movesIn (rules : LocalizationRules) (sheet : Sheet) (name : String) (column : Nat) :
    List MovedText :=
  (sheet.columnTexts column).filterMap (rules.moveOf? name column)

/-- The texts that leave a sheet, one detected field after the other. -/
def moves (rules : LocalizationRules) (schema : Schema) (sheet : Sheet) : List MovedText :=
  (schema.fields.filter (rules.detects sheet)).flatMap fun field =>
    rules.movesIn sheet field.name field.column

theorem mem_movesIn {name : String} {column : Nat} {moved : MovedText} :
    moved ∈ rules.movesIn sheet name column ↔
      moved.field = name ∧ moved.column = column ∧
      Sheet.headerRows ≤ moved.row ∧ moved.row < sheet.rowCount ∧
      moved.text = Text.trimmed (sheet.cell moved.row column) ∧
      moved.text.isEmpty = false ∧ rules.isKey moved.text = false := by
  unfold movesIn
  rw [List.mem_filterMap]
  constructor
  · rintro ⟨⟨row, text⟩, listed, moves⟩
    obtain ⟨data, bound, rfl⟩ := Sheet.mem_columnTexts.mp listed
    unfold moveOf? at moves
    dsimp only at moves
    split at moves
    · cases moves
    · rename_i kept
      obtain rfl := Option.some.inj moves
      rw [Bool.not_eq_true, Bool.or_eq_false_iff] at kept
      exact ⟨rfl, rfl, data, bound, rfl, kept⟩
  · rintro ⟨rfl, rfl, data, bound, text, visible, plain⟩
    refine ⟨(moved.row, sheet.cell moved.row moved.column),
      Sheet.mem_columnTexts.mpr ⟨data, bound, rfl⟩, ?_⟩
    unfold moveOf?
    dsimp only
    rw [← text, visible, plain]
    rfl

theorem mem_moves {moved : MovedText} :
    moved ∈ rules.moves schema sheet ↔
      ∃ field ∈ schema.fields, rules.detects sheet field = true ∧
        moved ∈ rules.movesIn sheet field.name field.column := by
  simp only [moves, List.mem_flatMap, List.mem_filter, and_assoc]

/-- A text moves once, since every row of its column is looked at once. -/
theorem nodup_rows_movesIn (name : String) (column : Nat) :
    ((rules.movesIn sheet name column).map (·.row)).Nodup := by
  have rows (cell : Nat × String) (row : Nat)
      (moves : row ∈ (rules.moveOf? name column cell).map (·.row)) : row = cell.1 := by
    unfold moveOf? at moves
    dsimp only at moves
    split at moves
    · cases moves
    · exact (Option.some.inj moves).symm
  unfold movesIn
  rw [Sheet.columnTexts_eq_range, List.filterMap_map, List.map_filterMap]
  refine List.Nodup.filterMap (fun first second row here there => ?_) List.nodup_range
  rw [Function.comp_apply] at here there
  have same := (rows _ row here).symm.trans (rows _ row there)
  exact Nat.add_left_cancel same

theorem nodup_places_moves (distinct : (schema.fields.map (·.column)).Nodup) :
    ((rules.moves schema sheet).map MovedText.place).Nodup := by
  have apart : (schema.fields.filter (rules.detects sheet)).Pairwise fun one other =>
      one.column ≠ other.column :=
    (List.pairwise_map.mp distinct).sublist List.filter_sublist
  rw [moves, List.map_flatMap, List.nodup_flatMap]
  constructor
  · intro field _
    refine List.Nodup.of_map Prod.fst ?_
    rw [List.map_map]
    exact nodup_rows_movesIn field.name field.column
  · refine apart.imp fun differ place here there => ?_
    obtain ⟨moved, one, rfl⟩ := List.mem_map.mp here
    obtain ⟨other, two, same⟩ := List.mem_map.mp there
    have column := congrArg Prod.snd same
    exact differ ((mem_movesIn.mp one).2.1.symm.trans
      (column.symm.trans (mem_movesIn.mp two).2.1))

/-- A moved text is what its cell reads without the blanks around it. -/
theorem cell?_of_mem_moves {moved : MovedText} (member : moved ∈ rules.moves schema sheet) :
    (sheet.cell? moved.row moved.column).map Text.trimmed = some moved.text := by
  obtain ⟨field, -, -, inside⟩ := mem_moves.mp member
  obtain ⟨-, located, -, -, text, visible, -⟩ := mem_movesIn.mp inside
  rw [← located] at text
  change moved.text = Text.trimmed ((sheet.cell? moved.row moved.column).getD "") at text
  cases read : sheet.cell? moved.row moved.column with
  | none =>
      rw [text, read] at visible
      cases visible
  | some cell =>
      rw [text, read]
      rfl

end LocalizationRules

namespace LocalizedTable

variable {former middle later : LocalizedTable} {issued more : List IssuedText}

/-- The later table has moved some more texts. -/
structure Moves (former : LocalizedTable) (issued : List IssuedText) (later : LocalizedTable) :
    Prop where
  name : later.schema.name = former.schema.name
  table : former.table.Issues (issued.map (·.entry former.schema.name)) later.table
  keys : later.schema.metadata.localizationKeys =
    former.schema.metadata.localizationKeys ++ issued.map (·.key)
  replaced : later.replaced = former.replaced + issued.length
  sheet : later.sheet = former.sheet.writeCells (issued.map fun text => (text.place, text.mark))

namespace Moves

theorem of_schema {schema : Schema} (name : schema.name = former.schema.name)
    (metadata : schema.metadata.localizationKeys = former.schema.metadata.localizationKeys) :
    Moves former [] { former with schema } :=
  ⟨name, .refl former.table, metadata.trans (List.append_nil _).symm, rfl, rfl⟩

theorem refl (state : LocalizedTable) : Moves state [] state := of_schema rfl rfl

theorem trans (first : Moves former issued middle) (second : Moves middle more later) :
    Moves former (issued ++ more) later where
  name := second.name.trans first.name
  table := by
    have rest := second.table
    rw [first.name] at rest
    rw [List.map_append]
    exact first.table.trans rest
  keys := by rw [second.keys, first.keys, List.map_append, List.append_assoc]
  replaced := by rw [second.replaced, first.replaced, List.length_append, Nat.add_assoc]
  sheet := by rw [second.sheet, first.sheet, List.map_append, Sheet.writeCells_append]

end Moves

variable (rules : LocalizationRules)

/-! ## Steps -/

theorem exists_moves_moveCell (name : String) (column : Nat) (state : LocalizedTable)
    (cell : Nat × String) :
    ∃ issued, Moves state issued (moveCell rules name column state cell) ∧
      issued.map (·.toMovedText) = (rules.moveOf? name column cell).toList := by
  unfold moveCell LocalizationRules.moveOf?
  dsimp only
  split
  · exact ⟨[], .refl state, rfl⟩
  · have issues := state.table.issues_insert
      (Localization.keyBase name (Text.trimmed cell.2) rules.settings.summaryWords)
      (Text.trimmed cell.2) state.schema.name name
    exact ⟨[⟨⟨name, cell.1, column, Text.trimmed cell.2⟩, _⟩], ⟨rfl, issues, rfl, rfl, rfl⟩, rfl⟩

theorem exists_moves_foldl_moveCell (name : String) (column : Nat) (cells : List (Nat × String))
    (state : LocalizedTable) :
    ∃ issued, Moves state issued (cells.foldl (moveCell rules name column) state) ∧
      issued.map (·.toMovedText) = cells.filterMap (rules.moveOf? name column) := by
  induction cells generalizing state with
  | nil => exact ⟨[], .refl state, rfl⟩
  | cons cell cells ih =>
      obtain ⟨issued, first, here⟩ := exists_moves_moveCell rules name column state cell
      obtain ⟨more, rest, later⟩ := ih (moveCell rules name column state cell)
      rw [List.foldl_cons]
      refine ⟨issued ++ more, first.trans rest, ?_⟩
      rw [List.map_append, here, later, List.filterMap_cons]
      cases rules.moveOf? name column cell <;> rfl

theorem exists_moves_moveField (state : LocalizedTable) (name : String) :
    ∃ issued, Moves state issued (moveField rules state name) ∧
      issued.map (·.toMovedText) =
        match state.schema.columnOf? name with
        | none => []
        | some column => rules.movesIn state.sheet name column := by
  unfold moveField Schema.columnOf?
  cases found : state.schema.field? name with
  | none => exact ⟨[], .refl state, rfl⟩
  | some field =>
      have marked : Moves state []
          { state with schema := state.schema.modifyField name markLocalized } := by
        apply Moves.of_schema <;> unfold Schema.modifyField <;> split <;> rfl
      obtain ⟨issued, moved, texts⟩ := exists_moves_foldl_moveCell rules name field.column
        (state.sheet.columnTexts field.column)
        { state with schema := state.schema.modifyField name markLocalized }
      have listed (moved : LocalizedTable) :
          Moves moved [] { moved with schema := listField name moved.schema } := by
        apply Moves.of_schema <;> unfold listField <;> dsimp only <;> split <;> rfl
      have whole := (marked.trans moved).trans (listed _)
      rw [List.nil_append, List.append_nil] at whole
      exact ⟨issued, whole, texts⟩

/-! ## Runs -/

theorem exists_moves_foldl_moveField (names : List String) (state : LocalizedTable) :
    ∃ issued, Moves state issued (names.foldl (moveField rules) state) := by
  induction names generalizing state with
  | nil => exact ⟨[], .refl state⟩
  | cons name names ih =>
      obtain ⟨issued, first, -⟩ := exists_moves_moveField rules state name
      obtain ⟨more, rest⟩ := ih (moveField rules state name)
      rw [List.foldl_cons]
      exact ⟨issued ++ more, first.trans rest⟩

/-- Fields of different columns do not see what is moved out of each other. -/
theorem exists_moves_of_distinct (fields : List Field) (state : LocalizedTable) (sheet : Sheet)
    (distinct : (fields.map (·.column)).Nodup)
    (located : ∀ field ∈ fields, state.schema.columnOf? field.name = some field.column)
    (untouched : ∀ field ∈ fields,
      state.sheet.columnTexts field.column = sheet.columnTexts field.column) :
    ∃ issued,
      Moves state issued ((fields.map (·.name)).foldl (moveField rules) state) ∧
      issued.map (·.toMovedText) =
        fields.flatMap fun field => rules.movesIn sheet field.name field.column := by
  induction fields generalizing state with
  | nil => exact ⟨[], .refl state, rfl⟩
  | cons field fields ih =>
      obtain ⟨fresh, distinct⟩ := List.nodup_cons.mp distinct
      obtain ⟨issued, first, here⟩ := exists_moves_moveField rules state field.name
      rw [located field List.mem_cons_self] at here
      dsimp only at here
      rw [LocalizationRules.movesIn, untouched field List.mem_cons_self] at here
      have frame := moveField_frame rules state field.name
      obtain ⟨more, rest, later⟩ := ih (moveField rules state field.name) distinct
        (fun other member => by
          rw [Schema.columnOf?_eq_of_outline other.name frame.outline]
          exact located other (List.mem_cons_of_mem _ member))
        (fun other member => by
          rw [← untouched other (List.mem_cons_of_mem _ member)]
          refine frame.sheet.columnTexts fun same => fresh ?_
          rw [located field List.mem_cons_self] at same
          exact List.mem_map.mpr ⟨other, member, (Option.some.inj same).symm⟩)
      rw [List.map_cons, List.foldl_cons]
      refine ⟨issued ++ more, first.trans rest, ?_⟩
      rw [List.map_append, here, later, List.flatMap_cons]
      rfl

end LocalizedTable

end SheetCompiler

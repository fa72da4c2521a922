import SheetCompiler.Localization.Extraction
import SheetCompiler.Proofs.Schema.Outline
import SheetCompiler.Proofs.Sheet.Grid

/-!
# What localization leaves alone

Localization marks fields and replaces texts. The outline of the schema stays, and so
does every cell outside the columns of the detected fields.
-/

set_option autoImplicit false

namespace SheetCompiler

namespace LocalizedTable

variable {former middle later : LocalizedTable} {touched others : Nat → Prop}

/-- Two tables of the same outline that agree outside of some columns. -/
structure Frame (touched : Nat → Prop) (former later : LocalizedTable) : Prop where
  name : later.schema.name = former.schema.name
  nameSpace : later.schema.nameSpace = former.schema.nameSpace
  outline : later.schema.fields.map Field.outline = former.schema.fields.map Field.outline
  sheet : Sheet.AgreeOff touched former.sheet later.sheet

namespace Frame

theorem refl (touched : Nat → Prop) (state : LocalizedTable) : Frame touched state state :=
  ⟨rfl, rfl, rfl, .refl touched state.sheet⟩

theorem trans (first : Frame touched former middle) (second : Frame touched middle later) :
    Frame touched former later where
  name := second.name.trans first.name
  nameSpace := second.nameSpace.trans first.nameSpace
  outline := second.outline.trans first.outline
  sheet := first.sheet.trans second.sheet

theorem mono (frame : Frame touched former later)
    (within : ∀ column, touched column → others column) : Frame others former later where
  name := frame.name
  nameSpace := frame.nameSpace
  outline := frame.outline
  sheet := frame.sheet.mono within

end Frame

theorem outline_markLocalized (field : Field) : (markLocalized field).outline = field.outline := by
  unfold markLocalized
  split
  · rename_i plain
    rw [Field.outline, Field.outline, eq_of_beq plain]
    rfl
  · rfl

theorem moveCell_frame (rules : LocalizationRules) (name : String) (column : Nat)
    (state : LocalizedTable) (cell : Nat × String) :
    Frame (· = column) state (moveCell rules name column state cell) := by
  unfold moveCell
  dsimp only
  split
  · exact .refl _ state
  · generalize state.table.insert _ _ _ _ = inserted
    exact ⟨rfl, rfl, rfl,
      Sheet.agreeOff_setCell state.sheet cell.1 column (Localization.keyMark ++ inserted.2)⟩

theorem foldl_moveCell_frame (rules : LocalizationRules) (name : String) (column : Nat)
    (cells : List (Nat × String)) (state : LocalizedTable) :
    Frame (· = column) state (cells.foldl (moveCell rules name column) state) := by
  induction cells generalizing state with
  | nil => exact .refl _ state
  | cons cell cells ih =>
      rw [List.foldl_cons]
      exact (moveCell_frame rules name column state cell).trans
        (ih (moveCell rules name column state cell))

theorem markLocalized_frame (touched : Nat → Prop) (state : LocalizedTable) (name : String) :
    Frame touched state
      { state with schema := state.schema.modifyField name markLocalized } where
  name := by unfold Schema.modifyField; split <;> rfl
  nameSpace := by unfold Schema.modifyField; split <;> rfl
  outline := Schema.outline_modifyField name outline_markLocalized
  sheet := .refl _ state.sheet

theorem listField_frame (touched : Nat → Prop) (state : LocalizedTable) (name : String) :
    Frame touched state { state with schema := listField name state.schema } where
  name := by unfold listField; dsimp only; split <;> rfl
  nameSpace := by unfold listField; dsimp only; split <;> rfl
  outline := by unfold listField; dsimp only; split <;> rfl
  sheet := .refl _ state.sheet

theorem moveField_frame (rules : LocalizationRules) (state : LocalizedTable) (name : String) :
    Frame (fun column => state.schema.columnOf? name = some column) state
      (moveField rules state name) := by
  unfold moveField
  split
  · exact .refl _ state
  · rename_i field found
    have located : state.schema.columnOf? name = some field.column := by
      rw [Schema.columnOf?, found]
      rfl
    have marked := markLocalized_frame
      (fun column => state.schema.columnOf? name = some column) state name
    have moved := foldl_moveCell_frame rules name field.column
      (state.sheet.columnTexts field.column)
      { state with schema := state.schema.modifyField name markLocalized }
    refine (marked.trans (moved.mono fun column same => ?_)).trans (listField_frame _ _ name)
    rw [same]
    exact located

theorem foldl_moveField_frame (rules : LocalizationRules) (names : List String)
    (state : LocalizedTable) :
    Frame (fun column => ∃ name ∈ names, state.schema.columnOf? name = some column) state
      (names.foldl (moveField rules) state) := by
  induction names generalizing state with
  | nil => exact .refl _ state
  | cons name names ih =>
      have first := moveField_frame rules state name
      have rest := ih (moveField rules state name)
      refine (first.mono fun column here => ⟨name, List.mem_cons_self, here⟩).trans
        (rest.mono ?_)
      rintro column ⟨other, member, located⟩
      rw [Schema.columnOf?_eq_of_outline other first.outline] at located
      exact ⟨other, List.mem_cons_of_mem _ member, located⟩

end LocalizedTable

/-- Extraction works on the columns of the detected fields alone. -/
theorem LocalizationRules.extract_frame (rules : LocalizationRules) (schema : Schema)
    (sheet : Sheet) (table : LocalizationTable) :
    LocalizedTable.Frame
      (fun column => ∃ name ∈ rules.detectedFields schema sheet,
        schema.columnOf? name = some column)
      ⟨schema, sheet, table, 0⟩ (rules.extract schema sheet table) :=
  LocalizedTable.foldl_moveField_frame rules (rules.detectedFields schema sheet)
    ⟨schema, sheet, table, 0⟩

end SheetCompiler

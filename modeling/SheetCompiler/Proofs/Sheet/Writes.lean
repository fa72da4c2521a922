import SheetCompiler.Proofs.Sheet.Grid

/-!
# Writing into sheets

Writing the cells of distinct places: each of them reads what was written to it, and all
others stay. Cells can also be changed all at once, as trimming does.
-/

set_option autoImplicit false

namespace SheetCompiler

namespace Sheet

variable {sheet left right : Sheet} {row column : Nat}

/-- Sheets are equal when they have the same rows and the same cells in them. -/
theorem eq_of_cell? (name : left.name = right.name) (rows : left.rowCount = right.rowCount)
    (cells : ∀ row column, left.cell? row column = right.cell? row column) : left = right := by
  obtain ⟨leftName, leftRows⟩ := left
  obtain ⟨rightName, rightRows⟩ := right
  obtain rfl : leftName = rightName := name
  refine congrArg (Sheet.mk leftName) (List.ext_getElem rows fun row within inside => ?_)
  apply List.ext_getElem?
  intro column
  have same := cells row column
  unfold cell? at same
  rw [List.getElem?_eq_getElem within, List.getElem?_eq_getElem inside] at same
  exact same

theorem cell?_setCell (sheet : Sheet) (row column : Nat) (text : String) (other index : Nat) :
    (sheet.setCell row column text).cell? other index =
      if (other, index) = (row, column) then (sheet.cell? other index).map fun _ => text
      else sheet.cell? other index := by
  unfold cell? setCell
  rw [List.getElem?_modify]
  by_cases same : row = other
  · subst same
    cases sheet.rows[row]? with
    | none => simp
    | some cells =>
        by_cases here : index = column
        · subst here
          rw [if_pos rfl]
          dsimp only [Option.map_eq_map, Option.map_some, Option.bind_some]
          rw [if_pos rfl, List.getElem?_set_self']
          rfl
        · rw [if_neg (by simpa using here)]
          dsimp only [Option.map_eq_map, Option.map_some, Option.bind_some]
          rw [if_pos rfl, List.getElem?_set_ne (Ne.symm here)]
  · rw [if_neg (by simp [Ne.symm same])]
    simp [same]

/-! ## Several places -/

/-- Replaces the texts of cells one after the other. -/
def writeCells (sheet : Sheet) (writes : List ((Nat × Nat) × String)) : Sheet :=
  writes.foldl (fun sheet (place, text) => sheet.setCell place.1 place.2 text) sheet

theorem writeCells_append (sheet : Sheet) (former later : List ((Nat × Nat) × String)) :
    sheet.writeCells (former ++ later) = (sheet.writeCells former).writeCells later :=
  List.foldl_append

theorem name_writeCells (sheet : Sheet) (writes : List ((Nat × Nat) × String)) :
    (sheet.writeCells writes).name = sheet.name := by
  induction writes generalizing sheet with
  | nil => rfl
  | cons write writes ih => exact ih (sheet.setCell write.1.1 write.1.2 write.2)

theorem rowCount_writeCells (sheet : Sheet) (writes : List ((Nat × Nat) × String)) :
    (sheet.writeCells writes).rowCount = sheet.rowCount := by
  induction writes generalizing sheet with
  | nil => rfl
  | cons write writes ih =>
      exact (ih (sheet.setCell write.1.1 write.1.2 write.2)).trans (List.length_modify ..)

theorem cell?_writeCells_of_not_mem (sheet : Sheet) {writes : List ((Nat × Nat) × String)}
    (apart : (row, column) ∉ writes.map (·.1)) :
    (sheet.writeCells writes).cell? row column = sheet.cell? row column := by
  induction writes generalizing sheet with
  | nil => rfl
  | cons write writes ih =>
      rw [List.map_cons, List.mem_cons, not_or] at apart
      have rest := ih (sheet.setCell write.1.1 write.1.2 write.2) apart.2
      rw [cell?_setCell, if_neg apart.1] at rest
      exact rest

theorem cell?_writeCells_of_mem (sheet : Sheet) {writes : List ((Nat × Nat) × String)}
    {text : String} (distinct : (writes.map (·.1)).Nodup) (member : ((row, column), text) ∈ writes) :
    (sheet.writeCells writes).cell? row column =
      (sheet.cell? row column).map fun _ => text := by
  induction writes generalizing sheet with
  | nil => cases member
  | cons write writes ih =>
      obtain ⟨fresh, distinct⟩ := List.nodup_cons.mp distinct
      rcases List.mem_cons.mp member with rfl | later
      · have rest := cell?_writeCells_of_not_mem (sheet.setCell row column text) fresh
        rw [cell?_setCell, if_pos rfl] at rest
        exact rest
      · have apart : (row, column) ≠ write.1 := by
          intro same
          exact fresh (List.mem_map.mpr ⟨_, later, same⟩)
        have rest := ih (sheet.setCell write.1.1 write.1.2 write.2) distinct later
        rw [cell?_setCell, if_neg apart] at rest
        exact rest

/-- A cell keeps its text or reads what was written to its place. -/
theorem cell?_writeCells_cases (sheet : Sheet) (writes : List ((Nat × Nat) × String))
    (row column : Nat) :
    (sheet.writeCells writes).cell? row column = sheet.cell? row column ∨
      ∃ text, ((row, column), text) ∈ writes ∧
        (sheet.writeCells writes).cell? row column = some text := by
  induction writes generalizing sheet with
  | nil => exact .inl rfl
  | cons write writes ih =>
      obtain ⟨place, text⟩ := write
      rcases ih (sheet.setCell place.1 place.2 text) with kept | ⟨later, listed, reads⟩
      · change ((sheet.setCell place.1 place.2 text).writeCells writes).cell? row column = _ ∨ _
        rw [kept, cell?_setCell]
        split
        · rename_i here
          cases present : sheet.cell? row column with
          | none => exact .inl rfl
          | some former =>
              refine .inr ⟨text, here ▸ List.mem_cons_self, ?_⟩
              exact kept.trans (by rw [cell?_setCell, if_pos here, present]; rfl)
        · exact .inl rfl
      · exact .inr ⟨later, List.mem_cons_of_mem _ listed, reads⟩

/-! ## All cells -/

def mapCells (change : String → String) (sheet : Sheet) : Sheet :=
  { sheet with rows := sheet.rows.map fun cells => cells.map change }

theorem trimCells_eq_mapCells (sheet : Sheet) : sheet.trimCells = sheet.mapCells Text.trimmed :=
  rfl

theorem rowCount_mapCells (sheet : Sheet) (change : String → String) :
    (sheet.mapCells change).rowCount = sheet.rowCount :=
  List.length_map _

theorem cell?_mapCells (sheet : Sheet) (change : String → String) (row column : Nat) :
    (sheet.mapCells change).cell? row column = (sheet.cell? row column).map change := by
  unfold cell? mapCells
  rw [List.getElem?_map]
  cases sheet.rows[row]? with
  | none => rfl
  | some cells => exact List.getElem?_map

end Sheet

end SheetCompiler

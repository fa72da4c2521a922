import SheetCompiler.Sheet

/-!
# Cells of sheets

Reading a sheet cell by cell. Writing the cells of one column changes each data row
in that column, and nothing else.
-/

set_option autoImplicit false

namespace SheetCompiler

namespace Sheet

variable {sheet former later : Sheet} {row column : Nat} {cells : List String}

def cell? (sheet : Sheet) (row column : Nat) : Option String :=
  (sheet.rows[row]?).bind fun cells => cells[column]?

theorem cell_eq (present : sheet.rows[row]? = some cells) :
    sheet.cell row column = (cells[column]?).getD "" := by
  rw [cell, present, Option.bind_some]

theorem mem_dataRows :
    (row, cells) ∈ sheet.dataRows ↔ headerRows ≤ row ∧ sheet.rows[row]? = some cells := by
  unfold dataRows
  rw [List.mem_mapIdx]
  constructor
  · rintro ⟨index, bound, entry⟩
    obtain ⟨rfl, rfl⟩ := Prod.mk.inj entry
    refine ⟨Nat.le_add_right _ _, ?_⟩
    rw [← List.getElem?_drop]
    exact List.getElem?_eq_getElem bound
  · rintro ⟨data, present⟩
    obtain ⟨index, rfl⟩ := Nat.exists_eq_add_of_le data
    rw [← List.getElem?_drop] at present
    obtain ⟨bound, here⟩ := List.getElem?_eq_some_iff.mp present
    exact ⟨index, bound, Prod.ext rfl here⟩

theorem columnTexts_eq_mapIdx (sheet : Sheet) (column : Nat) :
    sheet.columnTexts column =
      (sheet.rows.drop headerRows).mapIdx fun index cells =>
        (headerRows + index, (cells[column]?).getD "") := by
  apply List.ext_getElem?
  intro index
  unfold columnTexts dataRows
  rw [List.getElem?_map, List.getElem?_mapIdx, List.getElem?_mapIdx, Option.map_map]
  rfl

theorem getD_row (sheet : Sheet) (row column : Nat) :
    ((sheet.row row)[column]?).getD "" = sheet.cell row column := by
  unfold Sheet.row cell
  cases sheet.rows[row]? <;> rfl

theorem dataRows_eq_range (sheet : Sheet) :
    sheet.dataRows =
      (List.range sheet.dataRowCount).map fun index =>
        (headerRows + index, sheet.row (headerRows + index)) := by
  apply List.ext_getElem?
  intro index
  unfold dataRows
  rw [List.getElem?_mapIdx, List.getElem?_drop, List.getElem?_map]
  by_cases within : headerRows + index < sheet.rows.length
  · have present := List.getElem?_eq_getElem within
    have inside : index < sheet.dataRowCount := by
      unfold dataRowCount rowCount
      omega
    rw [List.getElem?_range inside, Option.map_some, Sheet.row, present]
    rfl
  · have outside : sheet.dataRowCount ≤ index := by
      unfold dataRowCount rowCount
      omega
    rw [List.getElem?_eq_none (by omega), List.getElem?_eq_none (by simpa using outside)]
    rfl

/-- The indices of the data rows. -/
def dataIndices (sheet : Sheet) : List Nat := List.range' headerRows sheet.dataRowCount

theorem mem_dataIndices :
    row ∈ sheet.dataIndices ↔ headerRows ≤ row ∧ row < sheet.rowCount := by
  unfold dataIndices dataRowCount
  rw [List.mem_range'_1]
  omega

theorem dataRows_eq_dataIndices (sheet : Sheet) :
    sheet.dataRows = sheet.dataIndices.map fun row => (row, sheet.row row) := by
  rw [dataRows_eq_range, dataIndices, List.range'_eq_map_range, List.map_map]
  rfl

theorem columnTexts_eq_range (sheet : Sheet) (column : Nat) :
    sheet.columnTexts column =
      (List.range sheet.dataRowCount).map fun index =>
        (headerRows + index, sheet.cell (headerRows + index) column) := by
  rw [columnTexts, dataRows_eq_range, List.map_map]
  exact List.map_congr_left fun index _ => Prod.ext rfl (getD_row ..)

theorem mem_columnTexts {text : String} :
    (row, text) ∈ sheet.columnTexts column ↔
      headerRows ≤ row ∧ row < sheet.rowCount ∧ text = sheet.cell row column := by
  rw [columnTexts_eq_range, List.mem_map]
  constructor
  · rintro ⟨index, within, entry⟩
    obtain ⟨rfl, rfl⟩ := Prod.mk.inj entry
    have below := List.mem_range.mp within
    unfold dataRowCount at below
    exact ⟨Nat.le_add_right _ _, by omega, rfl⟩
  · rintro ⟨data, bound, rfl⟩
    refine ⟨row - headerRows, List.mem_range.mpr ?_, ?_⟩
    · unfold dataRowCount
      omega
    · rw [Nat.add_sub_cancel' data]

/-! ## Columns that are left alone -/

/-- Two sheets of the same rows that agree outside of some columns. -/
structure AgreeOff (touched : Nat → Prop) (former later : Sheet) : Prop where
  name : later.name = former.name
  rowCount : later.rowCount = former.rowCount
  cell? : ∀ row column, ¬ touched column → later.cell? row column = former.cell? row column

namespace AgreeOff

variable {touched others : Nat → Prop} {middle : Sheet}

theorem refl (touched : Nat → Prop) (sheet : Sheet) : AgreeOff touched sheet sheet :=
  ⟨rfl, rfl, fun _ _ _ => rfl⟩

theorem trans (first : AgreeOff touched former middle) (second : AgreeOff touched middle later) :
    AgreeOff touched former later where
  name := second.name.trans first.name
  rowCount := second.rowCount.trans first.rowCount
  cell? row column apart := (second.cell? row column apart).trans (first.cell? row column apart)

theorem mono (agree : AgreeOff touched former later)
    (within : ∀ column, touched column → others column) : AgreeOff others former later where
  name := agree.name
  rowCount := agree.rowCount
  cell? row column apart := agree.cell? row column fun inside => apart (within column inside)

theorem cell (agree : AgreeOff touched former later) (apart : ¬ touched column) :
    later.cell row column = former.cell row column :=
  congrArg (Option.getD · "") (agree.cell? row column apart)

theorem columnTexts (agree : AgreeOff touched former later) (apart : ¬ touched column) :
    later.columnTexts column = former.columnTexts column := by
  have counts : later.dataRowCount = former.dataRowCount := by
    rw [dataRowCount, agree.rowCount, dataRowCount]
  rw [columnTexts_eq_range, columnTexts_eq_range, counts]
  exact List.map_congr_left fun index _ => congrArg _ (agree.cell apart)

end AgreeOff

theorem agreeOff_setCell (sheet : Sheet) (row column : Nat) (text : String) :
    AgreeOff (· = column) sheet (sheet.setCell row column text) where
  name := rfl
  rowCount := List.length_modify ..
  cell? other index apart := by
    unfold Sheet.cell? setCell
    rw [List.getElem?_modify]
    split
    · cases sheet.rows[other]? with
      | none => rfl
      | some cells =>
          dsimp only [Option.map_eq_map, Option.map_some, Option.bind_some]
          rw [List.getElem?_set_ne (Ne.symm apart)]
    · simp

theorem agreeOff_foldl_setCell (column : Nat) (write : String → String)
    (cells : List (Nat × String)) (sheet : Sheet) :
    AgreeOff (· = column) sheet
      (cells.foldl (fun sheet (row, text) => sheet.setCell row column (write text)) sheet) := by
  induction cells generalizing sheet with
  | nil => exact .refl _ sheet
  | cons cell cells ih => exact (agreeOff_setCell sheet cell.1 column (write cell.2)).trans (ih _)

/-! ## Columns that are rewritten -/

def mapData (change : List String → List String) (sheet : Sheet) : Sheet :=
  { sheet with
    rows := sheet.rows.take headerRows ++ (sheet.rows.drop headerRows).map change }

theorem rows_mapData (change : List String → List String) (data : headerRows ≤ row) :
    (sheet.mapData change).rows[row]? = (sheet.rows[row]?).map change := by
  have within : (sheet.rows.take headerRows).length ≤ row :=
    Nat.le_trans (List.length_take_le ..) data
  unfold mapData
  rw [List.getElem?_append_right within, List.getElem?_map, List.getElem?_drop, List.length_take]
  by_cases header : headerRows ≤ sheet.rows.length
  · rw [Nat.min_eq_left header, Nat.add_sub_cancel' data]
  · rw [List.getElem?_eq_none (by omega), List.getElem?_eq_none (by omega)]

/-- Whatever becomes of the data rows, the header stays. -/
theorem take_headerRows_append (rows : List (List String))
    (change : List (List String) → List (List String)) (none : change [] = []) :
    (rows.take headerRows ++ change (rows.drop headerRows)).take headerRows =
      rows.take headerRows := by
  rw [List.take_append, List.take_take, Nat.min_self, List.length_take]
  by_cases header : headerRows ≤ rows.length
  · rw [Nat.min_eq_left header, Nat.sub_self, List.take_zero, List.append_nil]
  · rw [List.drop_eq_nil_of_le (by omega), none, List.take_nil, List.append_nil]

theorem foldl_setCell_append (name : String) (column : Nat) (write : String → String)
    (above below : List (List String)) :
    (below.mapIdx fun index cells => (above.length + index, (cells[column]?).getD "")).foldl
        (fun sheet (row, text) => sheet.setCell row column (write text))
        (⟨name, above ++ below⟩ : Sheet) =
      ⟨name, above ++ below.map fun cells =>
        cells.set column (write ((cells[column]?).getD ""))⟩ := by
  induction below generalizing above with
  | nil => rfl
  | cons cells below ih =>
      have written (text : String) :
          (⟨name, above ++ cells :: below⟩ : Sheet).setCell (above.length + 0) column text =
            ⟨name, (above ++ [cells.set column text]) ++ below⟩ := by
        have modified := List.modifyTailIdx_add
          (List.modifyHead fun cells : List String => cells.set column text) 0 above
          (cells :: below)
        rw [List.append_assoc]
        exact congrArg (Sheet.mk name) modified
      have rest := ih (above ++ [cells.set column (write ((cells[column]?).getD ""))])
      rw [List.mapIdx_cons, List.foldl_cons]
      dsimp only
      rw [written, List.map_cons]
      simpa [Nat.add_assoc, Nat.add_comm 1] using rest

/-- Writing into a column row after row is one change of every data row. -/
theorem foldl_setCell (sheet : Sheet) (column : Nat) (write : String → String) :
    (sheet.columnTexts column).foldl
        (fun sheet (row, text) => sheet.setCell row column (write text)) sheet =
      sheet.mapData fun cells => cells.set column (write ((cells[column]?).getD "")) := by
  have split := List.take_append_drop headerRows sheet.rows
  have whole := foldl_setCell_append sheet.name column write (sheet.rows.take headerRows)
    (sheet.rows.drop headerRows)
  rw [columnTexts_eq_mapIdx]
  by_cases header : headerRows ≤ sheet.rows.length
  · rw [List.length_take, Nat.min_eq_left header, split] at whole
    exact whole
  · have none : sheet.rows.drop headerRows = [] := List.drop_eq_nil_of_le (by omega)
    unfold mapData
    rw [none] at split ⊢
    rw [List.append_nil] at split
    rw [split, List.map_nil, List.append_nil]
    rfl

theorem cell?_foldl_setCell (sheet : Sheet) (column : Nat) (write : String → String)
    (data : headerRows ≤ row) :
    ((sheet.columnTexts column).foldl
        (fun sheet (row, text) => sheet.setCell row column (write text)) sheet).cell? row column =
      (sheet.cell? row column).map write := by
  rw [foldl_setCell, cell?, rows_mapData _ data, cell?]
  cases sheet.rows[row]? with
  | none => rfl
  | some cells =>
      dsimp only [Option.map_some, Option.bind_some]
      rw [List.getElem?_set_self']
      cases cells[column]? <;> rfl

end Sheet

end SheetCompiler

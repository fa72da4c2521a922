import Mathlib.Data.List.Forall2
import SheetCompiler.Normalization
import SheetCompiler.Proofs.Sheet.Grid

/-!
# Normalized sheets

Fields of different columns do not interfere: each cell is normalized, and each fault
is found, as if its field were the only one.
-/

set_option autoImplicit false

namespace SheetCompiler

namespace Sheet

variable {row : Nat}

theorem agreeOff_normalizeColumn (sheet : Sheet) (field : Field) :
    AgreeOff (· = field.column) sheet (sheet.normalizeColumn field) :=
  agreeOff_foldl_setCell field.column (fun text => (field.reportOn text).normalized) _ sheet

theorem cell?_normalizeColumn (sheet : Sheet) (field : Field) (data : headerRows ≤ row) :
    (sheet.normalizeColumn field).cell? row field.column =
      (sheet.cell? row field.column).map fun text => (field.reportOn text).normalized :=
  cell?_foldl_setCell sheet field.column (fun text => (field.reportOn text).normalized) data

theorem agreeOff_normalizeFields (sheet : Sheet) (fields : List Field) :
    AgreeOff (· ∈ fields.map (·.column)) sheet (sheet.normalizeFields fields).2.1 := by
  induction fields generalizing sheet with
  | nil => exact .refl _ sheet
  | cons field fields ih =>
      have first := agreeOff_normalizeColumn sheet field
      have rest := ih (sheet.normalizeColumn field)
      refine (first.mono ?_).trans (rest.mono ?_)
      · rintro column rfl
        exact List.mem_cons_self
      · exact fun column later => List.mem_cons_of_mem _ later

/-- Normalization only counts the cells of each field. -/
theorem fields_normalizeFields (sheet : Sheet) (fields : List Field) :
    List.Forall₂ (fun field counted => ∃ texts, counted = field.countCells texts) fields
      (sheet.normalizeFields fields).1 := by
  induction fields generalizing sheet with
  | nil => exact .nil
  | cons field fields ih => exact .cons ⟨_, rfl⟩ (ih (sheet.normalizeColumn field))

/-- Each cell of a field is normalized once. -/
theorem cell?_normalizeFields (sheet : Sheet) {fields : List Field} {field : Field}
    (distinct : (fields.map (·.column)).Nodup) (member : field ∈ fields)
    (data : headerRows ≤ row) :
    (sheet.normalizeFields fields).2.1.cell? row field.column =
      (sheet.cell? row field.column).map fun text => (field.reportOn text).normalized := by
  induction fields generalizing sheet with
  | nil => cases member
  | cons first fields ih =>
      obtain ⟨fresh, distinct⟩ := List.nodup_cons.mp distinct
      rcases List.mem_cons.mp member with rfl | later
      · -- the columns of the later fields are others, so this one is not written again
        have rest := agreeOff_normalizeFields (sheet.normalizeColumn field) fields
        exact (rest.cell? row field.column fresh).trans (cell?_normalizeColumn sheet field data)
      · have apart : field.column ≠ first.column := by
          intro same
          exact fresh (List.mem_map.mpr ⟨field, later, same⟩)
        have before := (agreeOff_normalizeColumn sheet first).cell? row field.column apart
        have after := ih (sheet.normalizeColumn first) distinct later
        rw [before] at after
        exact after

theorem columnTexts_normalizeColumn (sheet : Sheet) {first field : Field} {fields : List Field}
    (fresh : first.column ∉ fields.map (·.column)) (later : field ∈ fields) :
    (sheet.normalizeColumn first).columnTexts field.column = sheet.columnTexts field.column := by
  refine (agreeOff_normalizeColumn sheet first).columnTexts fun same => fresh ?_
  exact List.mem_map.mpr ⟨field, later, same⟩

/-- The faults of the cells are found field by field in the sheet as it was. -/
theorem errors_normalizeFields (sheet : Sheet) {fields : List Field}
    (distinct : (fields.map (·.column)).Nodup) :
    (sheet.normalizeFields fields).2.2 =
      fields.flatMap fun field =>
        (sheet.columnTexts field.column).flatMap fun (row, text) => field.cellErrors row text := by
  induction fields generalizing sheet with
  | nil => rfl
  | cons first fields ih =>
      obtain ⟨fresh, distinct⟩ := List.nodup_cons.mp distinct
      rw [normalizeFields, List.flatMap_cons]
      refine congrArg₂ _ rfl ((ih (sheet.normalizeColumn first) distinct).trans ?_)
      exact List.flatMap_congr fun field later => by
        rw [columnTexts_normalizeColumn sheet fresh later]

end Sheet

end SheetCompiler

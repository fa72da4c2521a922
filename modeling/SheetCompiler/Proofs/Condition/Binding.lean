import SheetCompiler.Condition.Row
import SheetCompiler.Proofs.Sheet.Grid
import SheetCompiler.Schema.Resolution

/-!
# Names and what they are bound to

The fields of a row are bound one by one, and the number of the row last. A field may have the
name that the number is bound to: an integer gives way to the number, and anything else clashes
with it, so that no condition holds on the row.
-/

set_option autoImplicit false

namespace SheetCompiler

namespace Condition.Bindings

variable {bindings : Bindings} {name : String} {value : Operand}

@[simp] theorem get?_empty (name : String) : empty.get? name = none := rfl

theorem get?_cons (name other : String) (value : Operand) (entries : List (String × Operand)) :
    get? ⟨(name, value) :: entries⟩ other =
      if name = other then some value else get? ⟨entries⟩ other := by
  by_cases same : name = other
  · simp [get?, same]
  · simp [get?, same]

theorem bind?_eq (bindings : Bindings) (name : String) (value : Operand) :
    bindings.bind? name value =
      if ((bindings.get? name).map Operand.type).getD value.type = value.type then
        some ⟨(name, value) :: bindings.entries⟩
      else none := by
  unfold bind?
  cases bindings.get? name <;> simp

theorem get?_bind? {later : Bindings} (binds : bindings.bind? name value = some later)
    (other : String) :
    later.get? other = if name = other then some value else bindings.get? other := by
  rw [bind?_eq] at binds
  split at binds
  · obtain rfl := Option.some.inj binds
    exact get?_cons name other value bindings.entries
  · cases binds

/-- A name cannot be bound where it stands for a value of another type. -/
theorem bind?_eq_none_iff :
    bindings.bind? name value = none ↔
      ∃ former, bindings.get? name = some former ∧ former.type ≠ value.type := by
  rw [bind?_eq]
  cases bindings.get? name <;> simp

end Condition.Bindings

/-! ## Rows of sheets -/

namespace Sheet

/-- The cells of the fields in one of the data rows, which are counted from zero. -/
def dataCells (sheet : Sheet) (schema : Schema) (position : Nat) : List (Field × String) :=
  schema.fields.map fun field => (field, sheet.cell (headerRows + position) field.column)

theorem rowsOf_eq_range (sheet : Sheet) (schema : Schema) :
    sheet.rowsOf schema =
      (List.range sheet.dataRowCount).map fun position =>
        ⟨headerRows + position, sheet.dataCells schema position⟩ := by
  rw [rowsOf, dataRows_eq_range, List.map_map]
  refine List.map_congr_left fun position _ => ?_
  simp only [Function.comp_apply, DataRow.ofCells, getD_row, dataCells]

theorem eq_of_getElem?_rowsOf {sheet : Sheet} {schema : Schema} {position : Nat} {row : DataRow}
    (located : (sheet.rowsOf schema)[position]? = some row) :
    row = ⟨headerRows + position, sheet.dataCells schema position⟩ := by
  rw [rowsOf_eq_range, List.getElem?_map] at located
  obtain ⟨index, found, rfl⟩ := Option.map_eq_some_iff.mp located
  obtain ⟨_, rfl⟩ := List.getElem?_eq_some_iff.mp found
  rw [List.getElem_range]

end Sheet

namespace DataRow

open Condition (Bindings Operand)

/-- What a cell stands for: its value, or its text when it has none. -/
inductive StandsFor (type : FieldType) (text : String) : Operand → Prop where
  | value {value : Value} : Value.ofCell type text = .ok value → StandsFor type text (.ofValue value)
  | text {error : ReadError} : Value.ofCell type text = .error error →
      StandsFor type text (.text text)

theorem standsFor_iff {type : FieldType} {text : String} {operand : Operand} :
    StandsFor type text operand ↔ operandOf type text = operand := by
  unfold operandOf
  constructor
  · intro stands
    cases stands with
    | value read => rw [read]
    | text fails => rw [fails]
  · rintro rfl
    cases read : Value.ofCell type text with
    | ok value => exact .value read
    | error fault => exact .text read

/-- A cell under the name of the number that stands for something else than an integer. -/
structure Clashes (cell : Field × String) : Prop where
  name : cell.1.name = "row_number"
  type : ∀ operand, StandsFor cell.1.type cell.2 operand → operand.type ≠ .int

/-- What a name in a condition means on a row of some cells and of some number. -/
inductive Means (cells : List (Field × String)) (number : Nat) : String → Operand → Prop where
  | number : Means cells number "row_number" (.int (Int64.ofNat number))
  | field {cell : Field × String} {operand : Operand} : cell ∈ cells → cell.1.name ≠ "row_number" →
      StandsFor cell.1.type cell.2 operand → Means cells number cell.1.name operand

variable {cells : List (Field × String)} {bindings : Bindings} {row : DataRow}

/-- Fields of different names, none of which is bound, can be bound one after the other. -/
theorem exists_bindCells (distinct : (cells.map fun cell => cell.1.name).Nodup)
    (fresh : ∀ cell ∈ cells, bindings.get? cell.1.name = none) :
    ∃ later, bindCells bindings cells = .ok later ∧ ∀ name operand,
      later.get? name = some operand ↔
        (∃ cell ∈ cells, cell.1.name = name ∧ StandsFor cell.1.type cell.2 operand) ∨
          bindings.get? name = some operand := by
  induction cells generalizing bindings with
  | nil => exact ⟨bindings, rfl, by simp⟩
  | cons cell cells ih =>
      rw [List.map_cons, List.nodup_cons] at distinct
      obtain ⟨unseen, distinct⟩ := distinct
      rw [List.forall_mem_cons] at fresh
      obtain ⟨unbound, fresh⟩ := fresh
      cases binds : bindings.bind? cell.1.name (operandOf cell.1.type cell.2) with
      | none =>
          obtain ⟨former, held, _⟩ := Bindings.bind?_eq_none_iff.mp binds
          cases unbound.symm.trans held
      | some bound =>
          have lookup := Bindings.get?_bind? binds
          have stillFresh : ∀ other ∈ cells, bound.get? other.1.name = none := by
            intro other listed
            have differs : cell.1.name ≠ other.1.name := by
              intro same
              exact unseen (List.mem_map.mpr ⟨other, listed, same.symm⟩)
            rw [lookup, if_neg differs]
            exact fresh other listed
          obtain ⟨later, rest, seen⟩ := ih distinct stillFresh
          refine ⟨later, ?_, fun name operand => ?_⟩
          · rw [bindCells, binds]
            exact rest
          · rw [seen, lookup]
            simp only [List.mem_cons, or_and_right, exists_or, exists_eq_left]
            by_cases same : cell.1.name = name
            · subst same
              simp [unbound, standsFor_iff, or_comm]
            · simp [same]

theorem exists_bindCells_empty (distinct : (cells.map fun cell => cell.1.name).Nodup) :
    ∃ bound, bindCells .empty cells = .ok bound ∧ ∀ name operand,
      bound.get? name = some operand ↔
        ∃ cell ∈ cells, cell.1.name = name ∧ StandsFor cell.1.type cell.2 operand := by
  have fresh : ∀ cell ∈ cells, Bindings.empty.get? cell.1.name = none := by simp
  obtain ⟨bound, binds, seen⟩ := exists_bindCells distinct fresh
  refine ⟨bound, binds, ?_⟩
  intro name operand
  simp [seen]

theorem bindings_of_clashes (distinct : (row.cells.map fun cell => cell.1.name).Nodup)
    {cell : Field × String} (listed : cell ∈ row.cells) (clashes : Clashes cell) :
    row.bindings = .error .rowNumber := by
  obtain ⟨bound, binds, seen⟩ := exists_bindCells_empty distinct
  have held : bound.get? "row_number" = some (operandOf cell.1.type cell.2) :=
    (seen _ _).mpr ⟨cell, listed, clashes.name, standsFor_iff.mpr rfl⟩
  have differs := clashes.type _ (standsFor_iff.mpr rfl)
  have rejected : bound.bind? "row_number" (.int (Int64.ofNat row.number)) = none :=
    Bindings.bind?_eq_none_iff.mpr ⟨_, held, differs⟩
  simp [DataRow.bindings, binds, bind, Except.bind, rejected]

theorem exists_bindings (distinct : (row.cells.map fun cell => cell.1.name).Nodup)
    (agrees : ∀ cell ∈ row.cells, ¬ Clashes cell) :
    ∃ bindings, row.bindings = .ok bindings ∧ ∀ name operand,
      bindings.get? name = some operand ↔ Means row.cells row.number name operand := by
  obtain ⟨bound, binds, seen⟩ := exists_bindCells_empty distinct
  unfold DataRow.bindings
  rw [binds]
  dsimp only [bind, Except.bind]
  cases numbered : bound.bind? "row_number" (.int (Int64.ofNat row.number)) with
  | none =>
      obtain ⟨former, held, differs⟩ := Bindings.bind?_eq_none_iff.mp numbered
      obtain ⟨cell, listed, name, stands⟩ := (seen _ _).mp held
      refine absurd ⟨name, fun operand same => ?_⟩ (agrees cell listed)
      rw [← standsFor_iff.mp same, standsFor_iff.mp stands]
      exact differs
  | some later =>
      refine ⟨later, rfl, fun name operand => ?_⟩
      rw [Bindings.get?_bind? numbered]
      constructor
      · intro held
        by_cases same : "row_number" = name
        · subst same
          obtain rfl : Operand.int (Int64.ofNat row.number) = operand := by simpa using held
          exact .number
        · rw [if_neg same] at held
          obtain ⟨cell, listed, rfl, stands⟩ := (seen _ _).mp held
          exact .field listed (Ne.symm same) stands
      · intro means
        cases means with
        | number => exact if_pos rfl
        | field listed differs stands =>
            rw [if_neg (Ne.symm differs)]
            exact (seen _ _).mpr ⟨_, listed, rfl, stands⟩

/-- Conditions see each field of a row, and the number of the row. The only field that can be in
the way is one of the name of the number: they see the number in the place of an integer, and
with anything else there no condition holds. -/
theorem bindings_rowsOf {sheet : Sheet} {schema : Schema} {position : Nat}
    (distinct : schema.fieldNames.Nodup)
    (located : (sheet.rowsOf schema)[position]? = some row) :
    ((∃ cell ∈ sheet.dataCells schema position, Clashes cell) →
      row.bindings = .error .rowNumber ∧ ∀ condition, row.satisfies condition = false) ∧
    ((∀ cell ∈ sheet.dataCells schema position, ¬ Clashes cell) →
      ∃ bindings, row.bindings = .ok bindings ∧
        (∀ name operand, bindings.get? name = some operand ↔
          Means (sheet.dataCells schema position) (position + 1) name operand) ∧
        ∀ condition holds, Condition.holds? condition bindings = some holds →
          row.satisfies condition = holds) := by
  have placed := Sheet.eq_of_getElem?_rowsOf located
  have cells : row.cells = sheet.dataCells schema position := by rw [placed]
  have number : row.number = position + 1 := by
    rw [placed, DataRow.number, Nat.add_sub_cancel_left]
  have names : (row.cells.map fun cell => cell.1.name).Nodup := by
    rw [cells, Sheet.dataCells, List.map_map]
    exact distinct
  rw [← cells, ← number]
  constructor
  · rintro ⟨cell, listed, clashes⟩
    have unbound := bindings_of_clashes names listed clashes
    refine ⟨unbound, fun condition => ?_⟩
    rw [satisfies, unbound]
  · intro agrees
    obtain ⟨bindings, binds, means⟩ := exists_bindings names agrees
    refine ⟨bindings, binds, means, fun condition holds value => ?_⟩
    rw [satisfies, binds]
    exact congrArg (Option.getD · false) value

/-- A cell that is no integer, next to a list. -/
theorem bindings_rowsOf_unread :
    let id : Field := ⟨"Id", 0, .scalar .int32, "int", .all, .plain, none, "", "Id"⟩
    let tags : Field :=
      ⟨"Tags", 1, .array .string, "string[]", .all, .array .empty, none, "", "Tags"⟩
    let schema : Schema := ⟨"Item", "", [id, tags], .empty⟩
    let sheet : Sheet :=
      ⟨"Item", [["Id", "Tags"], ["int", "string[]"], ["", ""], ["", ""], ["1", ""], ["x1", "a, b"]]⟩
    let row : DataRow := ⟨5, [(id, "x1"), (tags, "a, b")]⟩
    schema.fieldNames.Nodup ∧ (sheet.rowsOf schema)[1]? = some row ∧
      (∀ cell ∈ sheet.dataCells schema 1, ¬ Clashes cell) ∧
      ∃ bindings, row.bindings = .ok bindings ∧ bindings.get? "Id" = some (.text "x1") ∧
        bindings.get? "Tags" = some (.tuple [.text "a", .text "b"]) ∧
        bindings.get? "row_number" = some (.int 2) := by
  intro id tags schema sheet row
  have distinct : schema.fieldNames.Nodup := by decide
  have located : (sheet.rowsOf schema)[1]? = some row := rfl
  have agrees : ∀ cell ∈ sheet.dataCells schema 1, ¬ Clashes cell := by
    intro cell listed clashes
    have names : cell.1.name ∈ schema.fieldNames := by
      obtain ⟨field, member, rfl⟩ := List.mem_map.mp listed
      exact List.mem_map_of_mem member
    rw [clashes.name] at names
    exact absurd names (by decide)
  obtain ⟨bindings, binds, means, -⟩ := (bindings_rowsOf distinct located).2 agrees
  have unread : operandOf (.scalar .int32) "x1" = .text "x1" := by rfl
  have listed : operandOf (.array .string) "a, b" = .tuple [.text "a", .text "b"] := by rfl
  refine ⟨distinct, located, agrees, bindings, binds, ?_, ?_, ?_⟩
  · exact (means _ _).mpr (.field List.mem_cons_self (by decide) (standsFor_iff.mpr unread))
  · exact (means _ _).mpr
      (.field (List.mem_cons_of_mem _ List.mem_cons_self) (by decide) (standsFor_iff.mpr listed))
  · exact (means _ _).mpr .number

/-- A field of that name that holds a text is in the way of a condition on another one, and so is
an empty cell in it. An integer in it is not seen. -/
theorem bindings_rowsOf_taken :
    let id : Field := ⟨"Id", 0, .scalar .int32, "int", .all, .plain, none, "", "Id"⟩
    let schema (type : BaseType) (declared : String) : Schema :=
      ⟨"Item", "", [id, ⟨"row_number", 1, .scalar type, declared, .all, .plain, none, "",
        "row_number"⟩], .empty⟩
    let sheet (declared text : String) : Sheet :=
      ⟨"Item", [["Id", "row_number"], ["int", declared], ["", ""], ["", ""], ["1", text]]⟩
    let texts := (sheet "string" "abc").rowsOf (schema .string "string")
    let blanks := (sheet "int" "").rowsOf (schema .int32 "int")
    let integers := (sheet "int" "7").rowsOf (schema .int32 "int")
    (Schema.ofSheet (sheet "string" "abc") "").toOption = some (schema .string "string", []) ∧
      (Schema.ofSheet (sheet "int" "7") "").toOption = some (schema .int32 "int", []) ∧
      (schema .string "string").fieldNames.Nodup ∧ (schema .int32 "int").fieldNames.Nodup ∧
      Condition.holds? "Id == 1" ⟨[("Id", .int 1)]⟩ = some true ∧
      (texts.map DataRow.bindings = [.error .rowNumber] ∧
        texts.map (·.satisfies "Id == 1") = [false]) ∧
      (blanks.map DataRow.bindings = [.error .rowNumber] ∧
        blanks.map (·.satisfies "Id == 1") = [false]) ∧
      integers.map (·.satisfies "row_number == 1") = [true] ∧
      integers.map (·.satisfies "row_number == 7") = [false] := by
  refine ⟨?_, ?_, by decide, by decide, ?_, ⟨rfl, rfl⟩, ⟨rfl, rfl⟩, ?_, ?_⟩
  all_goals decide +kernel

end DataRow

end SheetCompiler

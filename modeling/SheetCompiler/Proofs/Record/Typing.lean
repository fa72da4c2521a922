import SheetCompiler.Proofs.Sheet.Grid
import SheetCompiler.Proofs.Value.Typing
import SheetCompiler.Record

/-!
# Typed records

Each row of a record set holds one value for each field, of the type of the field or null. The
cells without a value are reported once each, row by row and field by field within a row.
-/

set_option autoImplicit false

namespace SheetCompiler

/-- What is stored for the text of a cell. -/
structure Value.IsStoredFor (value : Value) (type : FieldType) (text : String) : Prop where
  typed : value = .null ∨ Value.HasType type value
  read : ∀ other, Value.ofCell type text = .ok other → value = other
  unread : ∀ error, Value.ofCell type text = .error error → value = .null

/-- What is reported on a cell without a value. -/
structure UnreadCell.Reports (unread : UnreadCell) (sheet : Sheet) (row : Nat) (field : Field) :
    Prop where
  name : unread.field = field.name
  index : unread.row = row
  located : unread.column = field.column
  text : unread.value = sheet.cell row field.column
  fails : Value.ofCell field.type (sheet.cell row field.column) = .error unread.error

namespace Sheet

/-- The places of a row and of a field in a schema where a cell has no value. -/
def IsUnread (sheet : Sheet) (schema : Schema) (row index : Nat) : Prop :=
  row ∈ sheet.dataIndices ∧ ∃ field, schema.fields[index]? = some field ∧
    ∃ error, Value.ofCell field.type (sheet.cell row field.column) = .error error

end Sheet

section Lists

variable {α β : Type}

theorem forall₂_filterMap (f : α → Option β) (items : List α) :
    List.Forall₂ (fun item value => f item = some value)
      (items.filter fun item => (f item).isSome) (items.filterMap f) := by
  induction items with
  | nil => exact .nil
  | cons item items ih =>
      cases found : f item with
      | none => simpa [found] using ih
      | some value => simpa [found] using ih

theorem filterMap_range_length (f : α → Option β) (items : List α) :
    (List.range items.length).filterMap (fun index => items[index]?.bind f) =
      items.filterMap f := by
  induction items with
  | nil => rfl
  | cons item items ih =>
      rw [List.length_cons, List.range_succ_eq_map, List.filterMap_cons, List.filterMap_cons,
        List.filterMap_map, ← ih]
      rfl

/-- All places of a table, row by row. -/
def placesOf (rows : List Nat) (width : Nat) : List (Nat × Nat) :=
  rows.flatMap fun row => (List.range width).map fun index => (row, index)

theorem mem_placesOf {rows : List Nat} {width row index : Nat} :
    (row, index) ∈ placesOf rows width ↔ row ∈ rows ∧ index < width := by
  simp [placesOf]

theorem pairwise_placesOf {rows : List Nat} (ordered : rows.Pairwise (· < ·)) (width : Nat) :
    (placesOf rows width).Pairwise (Prod.Lex (· < ·) (· < ·)) := by
  rw [placesOf, List.pairwise_flatMap]
  constructor
  · intro row _
    rw [List.pairwise_map]
    exact List.pairwise_lt_range.imp fun before => Prod.Lex.right _ before
  · refine ordered.imp fun before place listed other listedOther => ?_
    obtain ⟨_, _, rfl⟩ := List.mem_map.mp listed
    obtain ⟨_, _, rfl⟩ := List.mem_map.mp listedOther
    exact Prod.Lex.left _ _ before

end Lists

namespace Field

variable {field : Field} {sheet : Sheet} {row : Nat}

theorem textIn_row (field : Field) (sheet : Sheet) (row : Nat) :
    field.textIn (sheet.row row) = sheet.cell row field.column :=
  Sheet.getD_row sheet row field.column

theorem isStoredFor_storedIn (field : Field) (cells : List String) :
    (field.storedIn cells).IsStoredFor field.type (field.textIn cells) := by
  unfold storedIn valueIn
  cases read : Value.ofCell field.type (field.textIn cells) with
  | ok value =>
      refine ⟨Value.null_or_hasType_of_ofCell read, fun other again => ?_, fun error fails => ?_⟩
      · exact Except.ok.inj (read.symm.trans again)
      · cases read.symm.trans fails
  | error fault =>
      refine ⟨.inl rfl, fun other succeeds => ?_, fun _ _ => rfl⟩
      cases read.symm.trans succeeds

theorem unreadIn?_row {unread : UnreadCell}
    (reported : field.unreadIn? row (sheet.row row) = some unread) :
    unread.Reports sheet row field := by
  unfold unreadIn? valueIn at reported
  rw [textIn_row] at reported
  split at reported
  · cases reported
  · rename_i error fails
    cases reported
    exact ⟨rfl, rfl, rfl, rfl, fails⟩

theorem isSome_unreadIn?_row :
    (field.unreadIn? row (sheet.row row)).isSome = true ↔
      ∃ error, Value.ofCell field.type (sheet.cell row field.column) = .error error := by
  unfold unreadIn? valueIn
  rw [textIn_row]
  cases Value.ofCell field.type (sheet.cell row field.column) <;> simp

end Field

namespace RecordSet

variable (schema : Schema) (sheet : Sheet)

/-- The report on the cell at a place. -/
def unreadAt? (place : Nat × Nat) : Option UnreadCell :=
  schema.fields[place.2]?.bind fun field => field.unreadIn? place.1 (sheet.row place.1)

theorem unreadCells_eq_filterMap :
    unreadCells schema sheet =
      (placesOf sheet.dataIndices schema.fields.length).filterMap (unreadAt? schema sheet) := by
  rw [unreadCells, Sheet.dataRows_eq_dataIndices, List.flatMap_map, placesOf, List.filterMap_flatMap]
  refine List.flatMap_congr fun row _ => ?_
  rw [List.filterMap_map]
  exact (filterMap_range_length (fun field => field.unreadIn? row (sheet.row row)) schema.fields).symm

theorem isSome_unreadAt?_iff {row index : Nat} (data : row ∈ sheet.dataIndices) :
    (unreadAt? schema sheet (row, index)).isSome = true ↔ sheet.IsUnread schema row index := by
  unfold unreadAt? Sheet.IsUnread
  cases located : schema.fields[index]? with
  | none => simp
  | some field =>
      rw [Option.bind_some, Field.isSome_unreadIn?_row]
      simp [data]

/-- Every row has a value of the right type, or null, for each field. Null stands for the cells
without a value, and the reports tell of these one by one, in the order of rows and fields. -/
theorem typed_ofSheet :
    List.Forall₂
        (fun row values => List.Forall₂
          (fun field value => Value.IsStoredFor value field.type (sheet.cell row field.column))
          schema.fields values)
        sheet.dataIndices (ofSheet schema sheet).rows ∧
      ∃ places : List (Nat × Nat),
        places.Pairwise (Prod.Lex (· < ·) (· < ·)) ∧
        (∀ row index, (row, index) ∈ places ↔ sheet.IsUnread schema row index) ∧
        List.Forall₂
          (fun place unread => ∃ field, schema.fields[place.2]? = some field ∧
            UnreadCell.Reports unread sheet place.1 field)
          places (unreadCells schema sheet) := by
  constructor
  · unfold ofSheet
    dsimp only
    rw [Sheet.dataRows_eq_dataIndices, List.map_map]
    refine List.forall₂_map_right_iff.mpr (List.forall₂_same.mpr fun row _ => ?_)
    refine List.forall₂_map_right_iff.mpr (List.forall₂_same.mpr fun field _ => ?_)
    rw [← Field.textIn_row]
    exact field.isStoredFor_storedIn (sheet.row row)
  · rw [unreadCells_eq_filterMap]
    refine ⟨_, ?_, fun row index => ?_, (forall₂_filterMap _ _).imp fun place unread reported => ?_⟩
    · exact (pairwise_placesOf List.pairwise_lt_range' _).filter _
    · rw [List.mem_filter, mem_placesOf]
      constructor
      · rintro ⟨⟨data, _⟩, reported⟩
        exact (isSome_unreadAt?_iff schema sheet data).mp reported
      · intro unread
        refine ⟨⟨unread.1, ?_⟩, (isSome_unreadAt?_iff schema sheet unread.1).mpr unread⟩
        obtain ⟨field, located, _⟩ := unread.2
        exact (List.getElem?_eq_some_iff.mp located).1
    · obtain ⟨field, located, found⟩ := Option.bind_eq_some_iff.mp reported
      exact ⟨field, located, Field.unreadIn?_row found⟩

end RecordSet

end SheetCompiler

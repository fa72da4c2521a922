import SheetCompiler.Schema
import SheetCompiler.Sheet
import SheetCompiler.Value.Reading

/-!
# Record sets

The typed rows of a table. A cell that cannot be read is null and is reported.
-/

set_option autoImplicit false

namespace SheetCompiler

structure RecordField where
  name : String
  type : FieldType
  deriving DecidableEq, Repr

structure RecordSet where
  table : String
  nameSpace : String
  fields : List RecordField
  rows : List (List Value)
  deriving BEq, Repr

/-- A cell without a value of its type. -/
structure UnreadCell where
  field : String
  row : Nat
  column : Nat
  value : String
  error : ReadError
  deriving DecidableEq, Repr

def UnreadCell.message (cell : UnreadCell) : String := cell.error.fullMessage

namespace Field

/-- The text of the field in a row of cells. -/
def textIn (field : Field) (cells : List String) : String := (cells[field.column]?).getD ""

/-- The value of the field in a row of cells. -/
def valueIn (field : Field) (cells : List String) : Except ReadError Value :=
  Value.ofCell field.type (field.textIn cells)

/-- The value of the field, or null when the cell has none. -/
def storedIn (field : Field) (cells : List String) : Value :=
  match field.valueIn cells with
  | .ok value => value
  | .error _ => .null

/-- The report on the cell of the field when it has no value. -/
def unreadIn? (field : Field) (row : Nat) (cells : List String) : Option UnreadCell :=
  match field.valueIn cells with
  | .ok _ => none
  | .error error => some ⟨field.name, row, field.column, field.textIn cells, error⟩

def toRecordField (field : Field) : RecordField := ⟨field.name, field.type⟩

end Field

namespace RecordSet

/-- The records of the data rows of a sheet. -/
def ofSheet (schema : Schema) (sheet : Sheet) : RecordSet :=
  { table := schema.name
    nameSpace := schema.nameSpace
    fields := schema.fields.map Field.toRecordField
    rows := sheet.dataRows.map fun (_, cells) =>
      schema.fields.map fun field => field.storedIn cells }

/-- The cells of a sheet without a value, row by row. -/
def unreadCells (schema : Schema) (sheet : Sheet) : List UnreadCell :=
  sheet.dataRows.flatMap fun (row, cells) =>
    schema.fields.filterMap fun field => field.unreadIn? row cells

/-- The values of the first field of a name. -/
def column? (records : RecordSet) (name : String) : Option (List Value) :=
  (records.fields.findIdx? fun field => field.name == name).map fun index =>
    records.rows.filterMap fun row => row[index]?

end RecordSet

end SheetCompiler

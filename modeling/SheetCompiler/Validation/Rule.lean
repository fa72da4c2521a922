import SheetCompiler.Number.Decimal
import SheetCompiler.Number.Shortest
import SheetCompiler.Pattern.Reader
import SheetCompiler.Schema
import SheetCompiler.Severity
import SheetCompiler.Sheet
import SheetCompiler.Value

/-!
# Rules

Checks of single values and of whole rows. The checks that settings can name look
at the trimmed value; all but the check for presence accept a blank one.
-/

set_option autoImplicit false

namespace SheetCompiler

/-- A data row seen through the fields of a schema. The index counts from the top
of the sheet. -/
structure DataRow where
  index : Nat
  cells : List (Field × String)
  deriving DecidableEq, Repr

namespace DataRow

def ofCells (schema : Schema) (index : Nat) (cells : List String) : DataRow :=
  ⟨index, schema.fields.map fun field => (field, (cells[field.column]?).getD "")⟩

/-- The number of the row among the data rows, counted from one. -/
def number (row : DataRow) : Nat := row.index - Sheet.headerRows + 1

/-- The text of the first field of a name. -/
def text? (row : DataRow) (name : String) : Option String :=
  (row.cells.find? fun cell => cell.1.name == name).map (·.2)

end DataRow

/-- The data rows of a sheet. -/
def Sheet.rowsOf (sheet : Sheet) (schema : Schema) : List DataRow :=
  sheet.dataRows.map fun (index, cells) => DataRow.ofCells schema index cells

/-- A check of the value of one field; it answers with a message on failure. Its findings
are of the rule's error type. -/
structure FieldRule where
  errorType : String
  severity : Severity
  failure? : String → Option String

/-- A rule goes by the type of its errors. -/
def FieldRule.name (rule : FieldRule) : String := rule.errorType

/-- A check of a row; it answers with a message on failure. -/
structure RowRule where
  errorType : String
  severity : Severity
  failure? : DataRow → Option String

/-- The checks of values that settings can name. A pattern keeps its text. -/
inductive Check where
  | required
  | minLength (length : Nat)
  | maxLength (length : Nat)
  | pattern (text : String) (compiled : Pattern)
  | range (least greatest : Binary64) (inclusive : Bool)
  deriving DecidableEq, Repr

namespace Check

def name : Check → String
  | required => "required"
  | minLength _ => "min_length"
  | maxLength _ => "max_length"
  | pattern .. => "pattern"
  | range .. => "range"

/-- Whether a number lies between two bounds. -/
def isWithin (least greatest : Binary64) (inclusive : Bool) (x : Binary64) : Bool :=
  if inclusive then least.le x && x.le greatest else least.lt x && x.lt greatest

/-- The message for a number outside its bounds. -/
def outsideMessage (least greatest : Binary64) (inclusive : Bool) (x : Binary64) : String :=
  let bounds := s!"{Shortest.display least}, {Shortest.display greatest}"
  let interval := if inclusive then s!"[{bounds}]" else s!"({bounds})"
  s!"{Shortest.display x} is outside {interval}"

/-- The failure of one element of a value that a range bounds. -/
def elementFailure? (least greatest : Binary64) (inclusive : Bool) (element : List Char) :
    Option String :=
  match Decimal.read? element with
  | none => some s!"'{String.ofList element}' is not numeric"
  | some x =>
      if isWithin least greatest inclusive x then none
      else some (outsideMessage least greatest inclusive x)

/-- The failure of a value that is not blank. -/
def presentFailure? (text : String) : Check → Option String
  | required => none
  | minLength length =>
      if text.length < length then
        some s!"Length {Value.displayNat text.length} is shorter than {Value.displayNat length}"
      else none
  | maxLength length =>
      if length < text.length then
        some s!"Length {Value.displayNat text.length} exceeds {Value.displayNat length}"
      else none
  | pattern source compiled =>
      if compiled.isFoundIn text then none else some s!"'{text}' does not match /{source}/"
  | range least greatest inclusive =>
      (Text.trimmedPieces (fun c => c == ',' || c == ';') text.toList).findSome?
        (elementFailure? least greatest inclusive)

/-- The failure of a value. -/
def failure? (check : Check) (value : String) : Option String :=
  let text := Text.trimmed value
  if text.isEmpty then if check = required then some "Value is required" else none
  else check.presentFailure? text

/-- The rule that makes a check. -/
def toRule (check : Check) (severity : Severity) : FieldRule :=
  ⟨check.name, severity, check.failure?⟩

end Check

end SheetCompiler

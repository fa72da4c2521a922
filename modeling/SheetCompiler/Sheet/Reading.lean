import SheetCompiler.Delimited.Reader
import SheetCompiler.Encoding
import SheetCompiler.Sheet

/-!
# Reading sheets

A sheet from the bytes of its table. Every field is decoded on its own, and rows may
differ in length.
-/

set_option autoImplicit false

namespace SheetCompiler.Sheet

/-- A row of a table that is not decoded. Rows count from one. -/
structure RowFault where
  table : String
  row : Nat
  cause : Encoding.Malformed
  deriving DecidableEq, Repr

def RowFault.message (fault : RowFault) : String :=
  s!"Decoding row {fault.row} of '{fault.table}': {fault.cause.message}"

def byteOrderMark : Char := '\uFEFF'

/-- A text without the byte order marks in front. -/
def withoutMarks (text : String) : String :=
  String.ofList (text.toList.dropWhile fun c => c == byteOrderMark)

/-- The first cell of a table may begin with byte order marks. -/
def withoutLeadingMarks : List (List String) → List (List String)
  | (cell :: cells) :: rows => (withoutMarks cell :: cells) :: rows
  | rows => rows

/-- The texts of records, of which the first one has the given number. -/
def decodeRows (table : String) (encoding : Encoding) (number : Nat) :
    List (List (List UInt8)) → Except RowFault (List (List String))
  | [] => .ok []
  | record :: records =>
      match record.mapM encoding.decode with
      | .error malformed => .error ⟨table, number, malformed⟩
      | .ok row => (decodeRows table encoding (number + 1) records).map (row :: ·)

/-- The sheet of a table. -/
def ofBytes (name : String) (delimiter : UInt8) (encoding : Encoding) (bytes : List UInt8) :
    Except RowFault Sheet :=
  (decodeRows name encoding 1 (Delimited.read delimiter bytes)).map fun rows =>
    padded name (withoutLeadingMarks rows)

end SheetCompiler.Sheet

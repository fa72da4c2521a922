import SheetCompiler.Value

/-!
# Operands

The values that conditions compute with. Integers and floating point numbers are
told apart even where they are equal as numbers.
-/

set_option autoImplicit false

namespace SheetCompiler.Condition

inductive Operand where
  | empty
  | bool (value : Bool)
  | int (value : Int64)
  | float (value : Binary64)
  | text (value : String)
  | tuple (items : List Operand)
  deriving BEq, Repr

/-- The type of an operand; it says nothing about the items of a tuple. -/
inductive OperandType where
  | empty
  | bool
  | int
  | float
  | text
  | tuple
  deriving DecidableEq, Repr

def OperandType.name : OperandType → String
  | empty => "empty"
  | bool => "boolean"
  | int => "int"
  | float => "float"
  | text => "string"
  | tuple => "tuple"

namespace Operand

def type : Operand → OperandType
  | empty => .empty
  | bool _ => .bool
  | int _ => .int
  | float _ => .float
  | text _ => .text
  | tuple _ => .tuple

mutual

/-- Equality of operands. Numbers of different types differ, and a NaN differs
from itself. -/
def equals : Operand → Operand → Bool
  | empty, empty => true
  | bool x, bool y => x == y
  | int x, int y => x == y
  | float x, float y => x.eq y
  | text x, text y => x == y
  | tuple xs, tuple ys => equalItems xs ys
  | _, _ => false

/-- Equality item by item. -/
def equalItems : List Operand → List Operand → Bool
  | [], [] => true
  | x :: xs, y :: ys => x.equals y && equalItems xs ys
  | _, _ => false

end

mutual

/-- Whether an operand counts as true: a number that is not zero, a text that is
not empty, or a tuple with an item that counts as true. -/
def isTruthy : Operand → Bool
  | empty => false
  | bool value => value
  | int value => value != 0
  | float value => !value.isZero
  | text value => !value.isEmpty
  | tuple items => anyTruthy items

def anyTruthy : List Operand → Bool
  | [] => false
  | item :: items => item.isTruthy || anyTruthy items

end

mutual

/-- The text of an operand; texts are quoted and tuples are in parentheses. -/
def display : Operand → String
  | empty => "()"
  | bool value => Value.displayBool value
  | int value => Value.displayInt value.toInt
  | float value => Shortest.display value
  | text value => "\"" ++ value ++ "\""
  | tuple items => "(" ++ String.intercalate ", " (displayItems items) ++ ")"

def displayItems : List Operand → List String
  | [] => []
  | item :: items => item.display :: displayItems items

end

mutual

/-- The operand of a cell value. An integer beyond the signed range becomes a
floating point number; lists and pairs become tuples. -/
def ofValue : Value → Operand
  | .null => empty
  | .bool value => bool value
  | .int value => int value
  | .uint value =>
      if value.toNat ≤ 0x7FFFFFFFFFFFFFFF then int (Int64.ofNat value.toNat)
      else float (.ofNat value.toNat)
  | .float value => float value
  | .text value => text value
  | .list items => tuple (ofValues items)
  | .pairs entries => tuple (ofEntries entries)

def ofValues : List Value → List Operand
  | [] => []
  | item :: items => ofValue item :: ofValues items

def ofEntries : List (Value × Value) → List Operand
  | [] => []
  | (key, value) :: entries => tuple [ofValue key, ofValue value] :: ofEntries entries

end

/-! ## Parts of operands -/

def bool? : Operand → Option Bool
  | bool value => some value
  | _ => none

def int? : Operand → Option Int64
  | int value => some value
  | _ => none

/-- The number that an integer or a floating point number is. -/
def number? : Operand → Option Binary64
  | int value => some (.ofInt value.toInt)
  | float value => some value
  | _ => none

def text? : Operand → Option String
  | text value => some value
  | _ => none

def tuple? : Operand → Option (List Operand)
  | tuple items => some items
  | _ => none

/-- An integer in the range of 64 bits. -/
def ofInt? (n : Int) : Option Operand :=
  if -0x8000000000000000 ≤ n ∧ n ≤ 0x7FFFFFFFFFFFFFFF then some (int (Int64.ofInt n)) else none

end Operand

end SheetCompiler.Condition

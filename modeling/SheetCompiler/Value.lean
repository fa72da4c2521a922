import SheetCompiler.Number.Shortest

/-!
# Values

The typed value of a cell as it is stored in a record, and its text.
-/

set_option autoImplicit false

namespace SheetCompiler

inductive Value where
  | null
  | bool (value : Bool)
  | int (value : Int64)
  | uint (value : UInt64)
  | float (value : Binary64)
  | text (value : String)
  | list (items : List Value)
  | pairs (entries : List (Value × Value))
  deriving BEq, Repr

namespace Value

def isNull : Value → Bool
  | null => true
  | _ => false

def isList : Value → Bool
  | list _ => true
  | _ => false

/-- The numeric value of an integer or a number. -/
def number? : Value → Option Binary64
  | int value => some (Binary64.ofInt value.toInt)
  | uint value => some (Binary64.ofNat value.toNat)
  | float value => some value
  | _ => none

def displayInt (n : Int) : String :=
  match n with
  | .ofNat n => String.ofList (Nat.toDigits 10 n)
  | .negSucc n => "-" ++ String.ofList (Nat.toDigits 10 (n + 1))

def displayNat (n : Nat) : String := String.ofList (Nat.toDigits 10 n)

def displayBool : Bool → String
  | true => "true"
  | false => "false"

mutual

/-- The text of a value. Elements are joined by `,`, and by `;` when one of them
is itself a list; keys and values are joined by `:`. -/
def display : Value → String
  | null => ""
  | bool value => displayBool value
  | int value => displayInt value.toInt
  | uint value => displayNat value.toNat
  | float value => Shortest.display value
  | text value => value
  | list items =>
      String.intercalate (if items.any isList then ";" else ",") (displayItems items)
  | pairs entries => String.intercalate "," (displayEntries entries)

/-- The texts of the elements of a list. -/
def displayItems : List Value → List String
  | [] => []
  | item :: items => item.display :: displayItems items

/-- The texts of keys with their values. -/
def displayEntries : List (Value × Value) → List String
  | [] => []
  | (key, value) :: entries =>
      (key.display ++ ":" ++ value.display) :: displayEntries entries

end

end Value

end SheetCompiler

/-!
# Integer numerals

Reading of whole numbers in decimal, digit by digit, with a bound on the
magnitude. The first fault from the left is the one that is reported.
-/

set_option autoImplicit false

namespace SheetCompiler.Integer

/-- Why a text is no integer in range. -/
inductive Fault where
  | empty
  | invalidDigit
  | tooLarge
  | tooSmall
  deriving DecidableEq, Repr

def Fault.message : Fault → String
  | .empty => "cannot parse integer from empty string"
  | .invalidDigit => "invalid digit found in string"
  | .tooLarge => "number too large to fit in target type"
  | .tooSmall => "number too small to fit in target type"

/-- The value of an ASCII digit. -/
def digit? (c : Char) : Option Nat :=
  if c.isDigit then some (c.toNat - '0'.toNat) else none

/-- Reads digits after a prefix of value `acc`. Exceeding `bound` is the fault
`overflow`, and it is noticed at the digit that exceeds it. -/
def magnitude (bound : Nat) (overflow : Fault) : Nat → List Char → Except Fault Nat
  | acc, [] => .ok acc
  | acc, c :: cs =>
      match digit? c with
      | none => .error .invalidDigit
      | some digit =>
          let next := 10 * acc + digit
          if bound < next then .error overflow else magnitude bound overflow next cs

/-- Reads one or more digits. -/
def digits (bound : Nat) (overflow : Fault) : List Char → Except Fault Nat
  | [] => .error .invalidDigit
  | c :: cs => magnitude bound overflow 0 (c :: cs)

def maxSigned : Nat := 0x7FFFFFFFFFFFFFFF

def maxUnsigned : Nat := 0xFFFFFFFFFFFFFFFF

/-- Reads a signed integer of 64 bits: an optional sign, then digits. -/
def signed : List Char → Except Fault Int
  | [] => .error .empty
  | '-' :: cs => (digits (maxSigned + 1) .tooSmall cs).map fun n => -(n : Int)
  | '+' :: cs => (digits maxSigned .tooLarge cs).map Int.ofNat
  | cs => (digits maxSigned .tooLarge cs).map Int.ofNat

/-- Reads an unsigned integer of 64 bits: an optional plus sign, then digits. -/
def unsigned : List Char → Except Fault Nat
  | [] => .error .empty
  | '+' :: cs => digits maxUnsigned .tooLarge cs
  | cs => digits maxUnsigned .tooLarge cs

end SheetCompiler.Integer

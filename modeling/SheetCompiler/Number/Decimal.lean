import SheetCompiler.Number.Binary64
import SheetCompiler.Number.Integer
import SheetCompiler.Text.Basic

/-!
# Decimal numbers

Reading of decimal texts as the nearest binary64 number. A number is an
optional sign, then `inf`, `infinity` or `nan` in any case, or digits with an
optional point and an optional exponent. One side of the point must have a
digit.
-/

set_option autoImplicit false

namespace SheetCompiler.Decimal

/-- A decimal number `significand * 10 ^ exponent`. -/
structure Parts where
  significand : Nat
  exponent : Int
  deriving DecidableEq, Repr

/-- The value of a run of digits. -/
def digitsValue (cs : List Char) : Nat :=
  cs.foldl (fun acc c => 10 * acc + (c.toNat - '0'.toNat)) 0

/-- The longest run of digits in front, and the rest. -/
def spanDigits (cs : List Char) : List Char × List Char :=
  (cs.takeWhile Char.isDigit, cs.dropWhile Char.isDigit)

/-- Reads an optional sign. -/
def sign : List Char → Bool × List Char
  | '-' :: cs => (true, cs)
  | '+' :: cs => (false, cs)
  | cs => (false, cs)

/-- Reads an exponent that must fill the rest of the text. -/
def exponent? (cs : List Char) : Option Int :=
  match cs with
  | [] => some 0
  | c :: cs =>
      if c == 'e' || c == 'E' then
        let (negative, cs) := sign cs
        if cs.isEmpty || !cs.all Char.isDigit then none
        else some (if negative then -(digitsValue cs : Int) else digitsValue cs)
      else none

/-- Reads digits with an optional point and exponent. -/
def parts? (cs : List Char) : Option Parts :=
  let (whole, rest) := spanDigits cs
  let (fraction, rest) :=
    match rest with
    | '.' :: rest => spanDigits rest
    | rest => ([], rest)
  if whole.isEmpty && fraction.isEmpty then none
  else
    (exponent? rest).map fun exponent =>
      ⟨digitsValue (whole ++ fraction), exponent - fraction.length⟩

/-- The number of decimal digits, zero for zero. -/
def digitCount (n : Nat) : Nat := if n = 0 then 0 else (Nat.toDigits 10 n).length

/-- The binary64 number nearest to a decimal. Beyond the range of the format the
power of ten is not computed: such a number is zero or infinite. -/
def Parts.toBinary64 (negative : Bool) (parts : Parts) : Binary64 :=
  let top := parts.exponent + digitCount parts.significand
  if parts.significand = 0 || top < -400 then .ofMagnitude negative 0
  else if 400 < top then .infinity negative
  else
    .ofRatio negative (parts.significand * tenTo parts.exponent.toNat)
      (tenTo (-parts.exponent).toNat)

/-- Reads a decimal number. -/
def read? (cs : List Char) : Option Binary64 :=
  let (negative, body) := sign cs
  let word := String.ofList (Text.lower body)
  if word == "inf" || word == "infinity" then some (.infinity negative)
  else if word == "nan" then some (.nan negative)
  else (parts? body).map (Parts.toBinary64 negative)

end SheetCompiler.Decimal

import SheetCompiler.Document
import SheetCompiler.Number.Decimal

/-!
# JSON numbers

An integer that fits 64 bits stays an integer. Any other number becomes a
binary64 number: its digits up to 64 bits form a significand, which is scaled by
one power of ten, each of the two steps rounding to nearest.
-/

set_option autoImplicit false

namespace SheetCompiler.Json

open Decimal (spanDigits digitsValue)

/-- A number in parts: the digits before and after the point and the exponent. -/
structure Literal where
  negative : Bool
  whole : List Char
  fraction : Option (List Char)
  exponent : Option (Bool × List Char)
  deriving DecidableEq, Repr

/-- Reads the exponent at the end of a number. -/
def exponentPart? : List Char → Option (Option (Bool × List Char))
  | [] => some none
  | c :: cs =>
      if c == 'e' || c == 'E' then
        let (negative, digits) := Decimal.sign cs
        if digits.isEmpty || !digits.all Char.isDigit then none
        else some (some (negative, digits))
      else none

/-- Reads the parts of a number. A leading zero stands alone, and a point has
digits on both sides. -/
def Literal.ofChars? (cs : List Char) : Option Literal :=
  let (negative, body) :=
    match cs with
    | '-' :: rest => (true, rest)
    | rest => (false, rest)
  let (whole, rest) := spanDigits body
  if whole.isEmpty || (1 < whole.length && whole.head? == some '0') then none
  else
    match rest with
    | '.' :: rest =>
        let (fraction, rest) := spanDigits rest
        if fraction.isEmpty then none
        else (exponentPart? rest).map (Literal.mk negative whole (some fraction))
    | rest => (exponentPart? rest).map (Literal.mk negative whole none)

def maxSignificand : Nat := 0xFFFFFFFFFFFFFFFF

/-- Appends digits to a significand while it fits 64 bits, and counts those that
are left over. -/
def accumulate : Nat → List Char → Nat × Nat
  | significand, [] => (significand, 0)
  | significand, c :: cs =>
      let next := 10 * significand + (c.toNat - '0'.toNat)
      if maxSignificand < next then (significand, cs.length + 1) else accumulate next cs

/-- The number `significand * 10 ^ exponent` in two rounding steps. Powers of ten
beyond `10 ^ 308` are divided out one at a time; a product beyond the range is
infinite. -/
def scaled (negative : Bool) (significand : Nat) (exponent : Int) : Binary64 :=
  let start := Binary64.ofRatio negative significand 1
  if significand = 0 then start
  else if 308 < exponent then .infinity negative
  else if 0 ≤ exponent then
    start.mulFinite (.ofNat (tenTo exponent.toNat))
  else
    let down := (-exponent).toNat
    let rounds := min (down / 309 + 1) 4
    if down ≤ 308 then start.divFinite (.ofNat (tenTo down))
    else go start down rounds
where
  go (x : Binary64) (down : Nat) : Nat → Binary64
    | 0 => .ofMagnitude negative 0
    | rounds + 1 =>
        if down ≤ 308 then x.divFinite (.ofNat (tenTo down))
        else go (x.divFinite (.ofNat (tenTo 308))) (down - 308) rounds

namespace Literal

/-- The binary64 number of a literal. -/
def toBinary64 (literal : Literal) : Binary64 :=
  let (significand, dropped) := accumulate 0 literal.whole
  let fraction := literal.fraction.getD []
  let (significand, ignored) := accumulate significand fraction
  let point : Int := (dropped : Int) - (fraction.length - ignored : Nat)
  let exponent : Int :=
    match literal.exponent with
    | none => 0
    | some (negative, digits) =>
        if negative then -(digitsValue digits : Int) else digitsValue digits
  scaled literal.negative significand (point + exponent)

/-- The document of a literal. -/
def toDocument (literal : Literal) : Document :=
  match literal.fraction, literal.exponent with
  | none, none =>
      let n := digitsValue literal.whole
      if literal.negative then
        if 0 < n ∧ n ≤ 0x8000000000000000 then .integer (-(n : Int)) else .number literal.toBinary64
      else if n ≤ maxSignificand then .integer n
      else .number literal.toBinary64
  | _, _ => .number literal.toBinary64

end Literal

end SheetCompiler.Json

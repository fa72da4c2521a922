import SheetCompiler.Number.Binary64

/-!
# Shortest decimals

The text of a binary64 number: the fewest digits that read back as the same
number, the nearest of those, and upward on a tie. Numbers are always written
positionally, without an exponent and without a trailing `.0`.
-/

set_option autoImplicit false

namespace SheetCompiler.Shortest

/-- The reals that read back as one positive finite number, as numerators over a
common denominator: the number itself lies between its two bounds, which belong
to the interval when `closed` holds. -/
structure Interval where
  low : Nat
  value : Nat
  high : Nat
  den : Nat
  closed : Bool
  deriving DecidableEq, Repr

namespace Interval

/-- The interval of a positive finite number. The gap below a power of two is
half the gap above it. -/
def ofBinary64 (x : Binary64) : Interval :=
  let m := x.significand
  let narrow := m == 0x10000000000000 && 1 < x.exponentField
  let quarter := x.scale - 2
  let factor := twoTo quarter.toNat
  { low := (4 * m - if narrow then 1 else 2) * factor
    value := 4 * m * factor
    high := (4 * m + 2) * factor
    den := twoTo (-quarter).toNat
    closed := m % 2 == 0 }

/-- Whether `digits * 10 ^ exponent` lies in the interval. -/
def contains (interval : Interval) (digits : Nat) (exponent : Int) : Bool :=
  let point := digits * tenTo exponent.toNat * interval.den
  let unit := tenTo (-exponent).toNat
  if interval.closed then
    interval.low * unit ≤ point && point ≤ interval.high * unit
  else
    interval.low * unit < point && point < interval.high * unit

/-- The digits of the value on the grid `10 ^ exponent`, rounded down, with twice
the remainder and the divisor to compare it with. -/
def onGrid (interval : Interval) (exponent : Int) : Nat × Nat × Nat :=
  let num := interval.value * tenTo (-exponent).toNat
  let den := interval.den * tenTo exponent.toNat
  (num / den, 2 * (num % den), den)

/-- The point of the grid `10 ^ exponent` in the interval that is nearest to the
value. -/
def nearest? (interval : Interval) (exponent : Int) : Option Nat :=
  let (below, doubled, den) := interval.onGrid exponent
  let down := interval.contains below exponent
  let up := interval.contains (below + 1) exponent
  if down && up then some (if doubled < den then below else below + 1)
  else if down then some below
  else if up then some (below + 1)
  else none

end Interval

/-- The first of the grids, from coarse to fine, that has a point in the
interval. Seventeen digits always suffice. -/
def search (interval : Interval) (top : Int) : List Nat → Nat × Int
  | [] => (interval.onGrid (top - 17) |>.1, top - 17)
  | count :: counts =>
      let exponent := top - count
      match interval.nearest? exponent with
      | some digits => (digits, exponent)
      | none => search interval top counts

/-- The exponent of ten just above a positive quotient, starting from a guess
that is at most one too low. -/
def decimalTop (num den : Nat) : Int :=
  let estimate : Int :=
    ((Nat.toDigits 10 num).length : Int) - (Nat.toDigits 10 den).length
  if num * tenTo (-estimate).toNat < den * tenTo estimate.toNat then estimate else estimate + 1

/-- The shortest digits of a positive finite number and their power of ten. -/
def digits (x : Binary64) : Nat × Int :=
  let interval := Interval.ofBinary64 x
  search interval (decimalTop interval.value interval.den) (List.range' 1 17)

/-- Writes `digits * 10 ^ exponent` positionally. -/
def positional (digits : Nat) (exponent : Int) : String :=
  let text := Nat.toDigits 10 digits
  if 0 ≤ exponent then String.ofList (text ++ List.replicate exponent.toNat '0')
  else
    let places := (-exponent).toNat
    let padded := List.replicate (places + 1 - text.length) '0' ++ text
    let whole := padded.take (padded.length - places)
    let fraction := (padded.drop (padded.length - places)).reverse.dropWhile (· == '0')
    if fraction.isEmpty then String.ofList whole
    else String.ofList (whole ++ '.' :: fraction.reverse)

/-- The text of a number. -/
def display (x : Binary64) : String :=
  if x.isNaN then "NaN"
  else
    let sign := if x.isNegative then "-" else ""
    if x.isInfinite then sign ++ "inf"
    else if x.isZero then sign ++ "0"
    else
      let (digits, exponent) := digits x
      sign ++ positional digits exponent

end SheetCompiler.Shortest

import SheetCompiler.Number.Power

/-!
# Binary64

Double precision numbers as bit patterns, with the conversions that have to be
exact done on natural numbers. A finite number is `m * 2 ^ q` with a natural
significand `m` below `2 ^ 53`.
-/

set_option autoImplicit false

namespace SheetCompiler

/-- A number in the IEEE 754 format binary64. Equality is equality of bits. -/
structure Binary64 where
  bits : UInt64
  deriving DecidableEq, Repr

namespace Binary64

def isNegative (x : Binary64) : Bool := 0x8000000000000000 ≤ x.bits.toNat

/-- The bits below the sign. -/
def magnitude (x : Binary64) : Nat := x.bits.toNat % 0x8000000000000000

def exponentField (x : Binary64) : Nat := x.magnitude / 0x10000000000000

def fraction (x : Binary64) : Nat := x.magnitude % 0x10000000000000

/-- The magnitude of the infinities; that of every NaN is larger. -/
def infinityMagnitude : Nat := 0x7FF0000000000000

def isNaN (x : Binary64) : Bool := infinityMagnitude < x.magnitude

def isInfinite (x : Binary64) : Bool := x.magnitude == infinityMagnitude

def isFinite (x : Binary64) : Bool := x.magnitude < infinityMagnitude

def isZero (x : Binary64) : Bool := x.magnitude == 0

/-- The number with a given sign and a magnitude below `2 ^ 63`. -/
def ofMagnitude (negative : Bool) (magnitude : Nat) : Binary64 :=
  ⟨UInt64.ofNat (if negative then 0x8000000000000000 + magnitude else magnitude)⟩

def infinity (negative : Bool) : Binary64 := ofMagnitude negative infinityMagnitude

def nan (negative : Bool) : Binary64 := ofMagnitude negative (infinityMagnitude + 0x8000000000000)

def zero : Binary64 := ⟨0⟩

def neg (x : Binary64) : Binary64 := ofMagnitude (!x.isNegative) x.magnitude

def abs (x : Binary64) : Binary64 := ofMagnitude false x.magnitude

/-- The significand `m` of a finite number. -/
def significand (x : Binary64) : Nat :=
  if x.exponentField = 0 then x.fraction else 0x10000000000000 + x.fraction

/-- The exponent `q` of a finite number. -/
def scale (x : Binary64) : Int := (max x.exponentField 1 : Nat) - 1075

/-- The quotient rounded to the nearest integer, a half to the even neighbour. -/
def roundDiv (num den : Nat) : Nat :=
  let quotient := num / den
  let doubled := 2 * (num % den)
  if doubled < den then quotient
  else if den < doubled then quotient + 1
  else if quotient % 2 = 0 then quotient
  else quotient + 1

/-- The largest `k` with `2 ^ k ≤ num / den`, for positive arguments. -/
def floorLog2 (num den : Nat) : Int :=
  let estimate : Int := (Nat.log2 num : Int) - Nat.log2 den
  if num * twoTo (-estimate).toNat < den * twoTo estimate.toNat then estimate - 1 else estimate

/-- The number nearest to `num / den`; a tie goes to the even significand. -/
def ofRatio (negative : Bool) (num den : Nat) : Binary64 :=
  if num = 0 then ofMagnitude negative 0
  else
    let exponent := max (floorLog2 num den - 52) (-1074)
    let significand := roundDiv (num * twoTo (-exponent).toNat) (den * twoTo exponent.toNat)
    let magnitude := (exponent + 1074).toNat * 0x10000000000000 + significand
    ofMagnitude negative (min magnitude infinityMagnitude)

def ofNat (n : Nat) : Binary64 := ofRatio false n 1

def ofInt : Int → Binary64
  | .ofNat n => ofRatio false n 1
  | .negSucc n => ofRatio true (n + 1) 1

/-- A finite number as a quotient of natural numbers, sign aside. -/
def ratio (x : Binary64) : Nat × Nat :=
  (x.significand * twoTo x.scale.toNat, twoTo (-x.scale).toNat)

/-- The product, rounded to nearest; both factors are finite. -/
def mulFinite (x y : Binary64) : Binary64 :=
  let (xNum, xDen) := x.ratio
  let (yNum, yDen) := y.ratio
  ofRatio (x.isNegative != y.isNegative) (xNum * yNum) (xDen * yDen)

/-- The quotient, rounded to nearest, of a finite number by a finite number that
is not zero. -/
def divFinite (x y : Binary64) : Binary64 :=
  let (xNum, xDen) := x.ratio
  let (yNum, yDen) := y.ratio
  ofRatio (x.isNegative != y.isNegative) (xNum * yDen) (xDen * yNum)

/-- The remainder of the division of finite numbers that rounds toward zero. It is
exact and takes the sign of the dividend; the divisor is not zero. -/
def remFinite (x y : Binary64) : Binary64 :=
  let (xNum, xDen) := x.ratio
  let (yNum, yDen) := y.ratio
  ofRatio x.isNegative (xNum * yDen % (yNum * xDen)) (xDen * yDen)

/-- The remainder of a division, which a zero divisor and an infinite dividend do
not have. -/
def rem (x y : Binary64) : Binary64 :=
  if x.isNaN || y.isNaN || x.isInfinite || y.isZero then nan false
  else if y.isInfinite then x
  else remFinite x y

/-- The floor of the square root of a number of that many digits in base four. -/
def floorSqrt (n : Nat) : Nat → Nat
  | 0 => 0
  | digits + 1 =>
      let root := 2 * floorSqrt (n / 4) digits
      if (root + 1) * (root + 1) ≤ n then root + 1 else root

/-- The number nearest to `√num / den`. The root is cut off behind 55 binary places, and one
place more tells whether something is cut off, so that it is rounded but once. -/
def ofRootRatio (num den : Nat) : Binary64 :=
  let shifted := num * twoTo 110
  let root := floorSqrt shifted (Nat.log2 shifted / 2 + 1)
  let rest := if root * root = shifted then 0 else 1
  ofRatio false (2 * root + rest) (den * twoTo 56)

/-- The root of the sum of the squares. The squares are exact, so they neither overflow nor
vanish. An infinite argument counts even beside a NaN. -/
def hypot (x y : Binary64) : Binary64 :=
  if x.isInfinite || y.isInfinite then infinity false
  else if x.isNaN || y.isNaN then nan false
  else
    let (xNum, xDen) := x.ratio
    let (yNum, yDen) := y.ratio
    ofRootRatio ((xNum * yDen) * (xNum * yDen) + (yNum * xDen) * (yNum * xDen)) (xDen * yDen)

/-- The exact integer of a finite number without a fractional part. -/
def toInt? (x : Binary64) : Option Int :=
  if x.isFinite then
    let (num, den) := x.ratio
    if num % den = 0 then
      some (if x.isNegative then -(num / den : Nat) else (num / den : Nat))
    else none
  else none

/-- The position of a number on the line; both zeros are at the origin. -/
def orderKey (x : Binary64) : Int :=
  if x.isNegative then -(x.magnitude : Int) else x.magnitude

/-- Numeric order; a NaN is not below anything. -/
def lt (x y : Binary64) : Bool := !x.isNaN && !y.isNaN && x.orderKey < y.orderKey

def le (x y : Binary64) : Bool := !x.isNaN && !y.isNaN && x.orderKey ≤ y.orderKey

/-- Numeric equality; a NaN differs from everything. -/
def eq (x y : Binary64) : Bool := !x.isNaN && !y.isNaN && x.orderKey == y.orderKey

def toFloat (x : Binary64) : Float := Float.ofBits x.bits

def ofFloat (x : Float) : Binary64 := ⟨x.toBits⟩

end Binary64

end SheetCompiler

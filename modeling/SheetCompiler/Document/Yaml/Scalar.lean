import SheetCompiler.Document
import SheetCompiler.Number.Decimal
import SheetCompiler.Text.Basic

/-!
# Plain scalars

What a scalar without quotes may stand for: nothing, a truth value, an integer,
a number, or its own text. Each question is asked on its own, so a settings
field of type text takes `5` as it is written.
-/

set_option autoImplicit false

namespace SheetCompiler.Yaml

open Text (stripFront?)

def isNull (cs : List Char) : Bool :=
  cs.isEmpty || ["null", "Null", "NULL", "~"].contains (String.ofList cs)

def bool? (cs : List Char) : Option Bool :=
  let word := String.ofList cs
  if ["true", "True", "TRUE"].contains word then some true
  else if ["false", "False", "FALSE"].contains word then some false
  else none

def startsWithSign : List Char → Bool
  | '+' :: _ | '-' :: _ => true
  | _ => false

/-- The value of a digit in a radix up to sixteen. -/
def digit? (radix : Nat) (c : Char) : Option Nat :=
  let value :=
    if c.isDigit then some (c.toNat - '0'.toNat)
    else if 'a' ≤ c ∧ c ≤ 'f' then some (c.toNat - 'a'.toNat + 10)
    else if 'A' ≤ c ∧ c ≤ 'F' then some (c.toNat - 'A'.toNat + 10)
    else none
  value.filter fun digit => digit < radix

/-- The value of one or more digits. -/
def digits? (radix : Nat) (cs : List Char) : Option Nat :=
  if cs.isEmpty then none
  else cs.foldlM (fun acc c => (digit? radix c).map fun digit => radix * acc + digit) 0

/-- A sign in front of digits that begin with a zero: such a text is no number. -/
def hasLeadingZero (cs : List Char) : Bool :=
  let body := if startsWithSign cs then cs.drop 1 else cs
  match body with
  | '0' :: rest => !rest.isEmpty && rest.all Char.isDigit
  | _ => false

/-- The digits after the marker of a radix. -/
def marked? (marker : String) (radix : Nat) (cs : List Char) : Option Nat :=
  (stripFront? marker.toList cs).bind (digits? radix)

def maxUnsigned : Nat := 0xFFFFFFFFFFFFFFFF

/-- A natural number of 64 bits in decimal, or in another radix after `0x`, `0o`
or `0b`. -/
def natural? (cs : List Char) : Option Nat :=
  let body := (stripFront? ['+'] cs).getD cs
  let value :=
    (marked? "0x" 16 body).orElse fun _ =>
      (marked? "0o" 8 body).orElse fun _ =>
        (marked? "0b" 2 body).orElse fun _ =>
          if startsWithSign body || hasLeadingZero cs then none else digits? 10 body
  value.filter fun n => n ≤ maxUnsigned

/-- A negative integer of 64 bits. -/
def negative? (cs : List Char) : Option Int :=
  let value :=
    (marked? "-0x" 16 cs).orElse fun _ =>
      (marked? "-0o" 8 cs).orElse fun _ =>
        (marked? "-0b" 2 cs).orElse fun _ =>
          if hasLeadingZero cs then none else marked? "-" 10 cs
  (value.filter fun n => n ≤ 0x8000000000000000).map fun n => -(n : Int)

def integer? (cs : List Char) : Option Int :=
  match natural? cs with
  | some n => some n
  | none => negative? cs

/-- A number: finite in decimal, or one of the names of the infinities and of
NaN. -/
def decimal? (cs : List Char) : Option Binary64 :=
  let signed := stripFront? ['+'] cs
  if (signed.map startsWithSign).getD false then none
  else
    let body := signed.getD cs
    if [".inf", ".Inf", ".INF"].contains (String.ofList body) then some (.infinity false)
    else if ["-.inf", "-.Inf", "-.INF"].contains (String.ofList cs) then some (.infinity true)
    else if [".nan", ".NaN", ".NAN"].contains (String.ofList cs) then some (.nan false)
    else (Decimal.read? body).filter Binary64.isFinite

/-- The document of a plain scalar whose type is not known beforehand. -/
def resolve (text : String) : Document :=
  let cs := text.toList
  if isNull cs then .null
  else
    match bool? cs, integer? cs with
    | some value, _ => .bool value
    | none, some value => .integer value
    | none, none =>
        if hasLeadingZero cs then .string text
        else
          match decimal? cs with
          | some value => .number value
          | none => .string text

end SheetCompiler.Yaml

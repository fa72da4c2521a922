import SheetCompiler.Condition.Operand
import SheetCompiler.Text.Bytes
import SheetCompiler.Text.LetterCase

/-!
# Functions of conditions

The functions that conditions can call. A function takes one operand; functions
of several arguments take a tuple.
-/

set_option autoImplicit false

namespace SheetCompiler.Condition

namespace Operand

/-- Applies a function of one number. -/
def mapNumber (f : Float → Float) (argument : Operand) : Option Operand :=
  argument.number?.map fun x => float (.ofFloat (f x.toFloat))

/-- The two items of a pair. -/
def pair? : Operand → Option (Operand × Operand)
  | tuple [first, second] => some (first, second)
  | _ => none

/-- The two numbers of a pair. -/
def numbers? (argument : Operand) : Option (Binary64 × Binary64) := do
  let (first, second) ← argument.pair?
  return (← first.number?, ← second.number?)

/-- Applies a function of two numbers. -/
def mapNumbers (f : Float → Float → Float) (argument : Operand) : Option Operand :=
  argument.numbers?.map fun (x, y) => float (.ofFloat (f x.toFloat y.toFloat))

/-- Asks about a number. -/
def testNumber (test : Binary64 → Bool) (argument : Operand) : Option Operand :=
  argument.number?.map fun x => bool (test x)

/-- Applies a function of two integers. -/
def mapInts (f : Int64 → Int64 → Int64) (argument : Operand) : Option Operand := do
  let (first, second) ← argument.pair?
  let x ← first.int?
  let y ← second.int?
  return int (f x y)

def mapText (f : String → String) (argument : Operand) : Option Operand :=
  argument.text?.map fun value => text (f value)

/-- The least or the greatest item of a tuple of numbers. Integers and floating
point numbers are collected apart from each other; without integers, or without
floating point numbers, the bound of their range stands for them. -/
def extreme? (ofInts : Int → Int → Int) (startInt : Int) (beats : Binary64 → Binary64 → Bool)
    (startFloat : Binary64) (argument : Operand) : Option Operand := do
  let items ← argument.tuple?
  let (bestInt, bestFloat) ← items.foldlM (fun (bestInt, bestFloat) item =>
    match item with
    | int n => some (ofInts bestInt n.toInt, bestFloat)
    | float x => some (bestInt, if beats x bestFloat then x else bestFloat)
    | _ => none) (startInt, startFloat)
  if beats (.ofInt bestInt) bestFloat then ofInt? bestInt else return float bestFloat

/-- The third or second item of a triple, as its first item says. -/
def select? : Operand → Option Operand
  | tuple [bool condition, first, second] => some (if condition then first else second)
  | _ => none

def isAtom : Operand → Bool
  | bool _ | int _ | float _ | text _ => true
  | _ => false

/-- Whether a tuple holds an item. -/
def contains? (argument : Operand) : Option Operand :=
  match argument.pair? with
  | some (tuple items, item) =>
      if item.isAtom then some (bool (items.any fun other => other.equals item)) else none
  | _ => none

/-- Whether a tuple holds one of the items of another one. -/
def containsAny? (argument : Operand) : Option Operand :=
  match argument.pair? with
  | some (tuple items, tuple others) =>
      if others.all isAtom then
        some (bool (others.any fun item => items.any fun other => other.equals item))
      else none
  | _ => none

/-- The number of bytes of a text, or of items of a tuple. -/
def length? : Operand → Option Operand
  | text value => ofInt? value.utf8ByteSize
  | tuple items => ofInt? items.length
  | _ => none

/-- The bytes of a text from a start to an end, by default that of the text. -/
def substring? (argument : Operand) : Option Operand := do
  let (subject, start, stop) ←
    match argument with
    | tuple [text subject, int start] => some (subject, start.toInt, (subject.utf8ByteSize : Int))
    | tuple [text subject, int start, int stop] => some (subject, start.toInt, stop.toInt)
    | _ => none
  if start < 0 ∨ stop < start ∨ subject.utf8ByteSize < stop then none
  else
    let bytes := ((Text.utf8 subject).take stop.toNat).drop start.toNat
    return text (← Text.ofUtf8? bytes)

def abs? : Operand → Option Operand
  | int value => ofInt? value.toInt.natAbs
  | float value => some (float value.abs)
  | _ => none

end Operand

/-- Whether a number is neither zero nor too small for its precision. -/
def isNormal (x : Binary64) : Bool := x.isFinite && x.exponentField != 0

namespace Operand

/-- Calls a function by its name. -/
def call? (name : String) (argument : Operand) : Option Operand :=
  match name with
  | "math::ln" => mapNumber Float.log argument
  | "math::log" => mapNumbers (fun x base => Float.log x / Float.log base) argument
  | "math::log2" => mapNumber Float.log2 argument
  | "math::log10" => mapNumber Float.log10 argument
  | "math::exp" => mapNumber Float.exp argument
  | "math::exp2" => mapNumber Float.exp2 argument
  | "math::pow" => mapNumbers Float.pow argument
  | "math::cos" => mapNumber Float.cos argument
  | "math::acos" => mapNumber Float.acos argument
  | "math::cosh" => mapNumber Float.cosh argument
  | "math::acosh" => mapNumber Float.acosh argument
  | "math::sin" => mapNumber Float.sin argument
  | "math::asin" => mapNumber Float.asin argument
  | "math::sinh" => mapNumber Float.sinh argument
  | "math::asinh" => mapNumber Float.asinh argument
  | "math::tan" => mapNumber Float.tan argument
  | "math::atan" => mapNumber Float.atan argument
  | "math::tanh" => mapNumber Float.tanh argument
  | "math::atanh" => mapNumber Float.atanh argument
  | "math::atan2" => mapNumbers Float.atan2 argument
  | "math::sqrt" => mapNumber Float.sqrt argument
  | "math::cbrt" => mapNumber Float.cbrt argument
  | "math::hypot" => argument.numbers?.map fun (x, y) => float (x.hypot y)
  | "math::abs" => abs? argument
  | "math::is_nan" => testNumber Binary64.isNaN argument
  | "math::is_finite" => testNumber Binary64.isFinite argument
  | "math::is_infinite" => testNumber Binary64.isInfinite argument
  | "math::is_normal" => testNumber isNormal argument
  | "floor" => mapNumber Float.floor argument
  | "round" => mapNumber Float.round argument
  | "ceil" => mapNumber Float.ceil argument
  | "min" => extreme? min 0x7FFFFFFFFFFFFFFF Binary64.lt (.infinity false) argument
  | "max" => extreme? max (-0x8000000000000000) (fun x y => y.lt x) (.infinity true) argument
  | "if" => select? argument
  | "contains" => contains? argument
  | "contains_any" => containsAny? argument
  | "len" => length? argument
  | "typeof" => some (text argument.type.name)
  | "str::to_lowercase" => mapText Text.Letter.lowerText argument
  | "str::to_uppercase" => mapText Text.Letter.upperText argument
  | "str::trim" => mapText Text.trimmed argument
  | "str::from" => some (text argument.display)
  | "str::substring" => substring? argument
  | "bitand" => mapInts (· &&& ·) argument
  | "bitor" => mapInts (· ||| ·) argument
  | "bitxor" => mapInts (· ^^^ ·) argument
  | "bitnot" => argument.int?.map fun n => int (~~~n)
  | "shl" => mapInts (· <<< ·) argument
  | "shr" => mapInts (· >>> ·) argument
  | _ => none

end Operand

end SheetCompiler.Condition

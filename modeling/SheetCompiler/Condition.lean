import SheetCompiler.Condition.Builtin
import SheetCompiler.Condition.Tree

/-!
# Conditions

Conditions on a row and their values. A condition that is malformed, names what
is not bound, or combines operands of the wrong types has no value.

Integers stay integers under the four operations and remainders, as long as the
result has 64 bits; powers are floating point numbers.
-/

set_option autoImplicit false

namespace SheetCompiler.Condition

/-- The operands that names stand for. -/
structure Bindings where
  entries : List (String × Operand)
  deriving BEq, Repr

namespace Bindings

def empty : Bindings := ⟨[]⟩

def get? (bindings : Bindings) (name : String) : Option Operand :=
  (bindings.entries.find? fun entry => entry.1 == name).map (·.2)

/-- Binds a name. A name that is bound keeps its type. -/
def bind? (bindings : Bindings) (name : String) (value : Operand) : Option Bindings :=
  match bindings.get? name with
  | some former =>
      if former.type = value.type then some ⟨(name, value) :: bindings.entries⟩ else none
  | none => some ⟨(name, value) :: bindings.entries⟩

end Bindings

namespace Operand

/-- Applies an operation on two numbers, on integers where both are. -/
def arithmetic? (onInts : Int → Int → Option Int) (onFloats : Binary64 → Binary64 → Binary64)
    (x y : Operand) : Option Operand :=
  match x, y with
  | int x, int y => (onInts x.toInt y.toInt).bind ofInt?
  | _, _ => do
      let x ← x.number?
      let y ← y.number?
      return float (onFloats x y)

/-- An operation of the processor on two numbers. -/
def onFloats (f : Float → Float → Float) (x y : Binary64) : Binary64 :=
  .ofFloat (f x.toFloat y.toFloat)

/-- The sum of two numbers, or two texts one after the other. -/
def add? (x y : Operand) : Option Operand :=
  match x, y with
  | text x, text y => some (text (x ++ y))
  | _, _ => arithmetic? (fun x y => some (x + y)) (onFloats (· + ·)) x y

/-- The quotient that is rounded toward zero, which a zero divisor does not have. -/
def quotient? (x y : Int) : Option Int := if y = 0 then none else some (x.tdiv y)

/-- The remainder of a quotient in the range of 64 bits. -/
def remainder? (x y : Int) : Option Int :=
  ((quotient? x y).bind ofInt?).map fun _ => x.tmod y

/-- Compares two texts or two numbers. -/
def compare? (onTexts : String → String → Bool) (onInts : Int → Int → Bool)
    (onFloats : Binary64 → Binary64 → Bool) (x y : Operand) : Option Operand :=
  match x, y with
  | text x, text y => some (bool (onTexts x y))
  | int x, int y => some (bool (onInts x.toInt y.toInt))
  | _, _ => do
      let x ← x.number?
      let y ← y.number?
      return bool (onFloats x y)

/-- Whether the first operand is below the second. -/
def less? (x y : Operand) : Option Operand :=
  compare? (fun x y => decide (x < y)) (fun x y => decide (x < y)) Binary64.lt x y

/-- Whether the first operand is not above the second. -/
def lessEqual? (x y : Operand) : Option Operand :=
  compare? (fun x y => !decide (y < x)) (fun x y => decide (x ≤ y)) Binary64.le x y

/-- Applies an operation on two truth values. -/
def logic? (f : Bool → Bool → Bool) (x y : Operand) : Option Operand := do
  let x ← x.bool?
  let y ← y.bool?
  return bool (f x y)

def negate? : Operand → Option Operand
  | int value => ofInt? (-value.toInt)
  | float value => some (float value.neg)
  | _ => none

end Operand

/-- Applies a symbol to the values of its operands. -/
def Symbol.apply? (bindings : Bindings) (symbol : Symbol) (operands : List Operand) :
    Option Operand :=
  match symbol, operands with
  | group, [] => some .empty
  | group, x :: _ => some x
  | add, [x, y] => x.add? y
  | sub, [x, y] => x.arithmetic? (fun x y => some (x - y)) (Operand.onFloats (· - ·)) y
  | mul, [x, y] => x.arithmetic? (fun x y => some (x * y)) (Operand.onFloats (· * ·)) y
  | div, [x, y] => x.arithmetic? Operand.quotient? (Operand.onFloats (· / ·)) y
  | rem, [x, y] => x.arithmetic? Operand.remainder? Binary64.rem y
  | pow, [x, y] => Operand.mapNumbers Float.pow (.tuple [x, y])
  | neg, [x] => x.negate?
  | equal, [x, y] => some (.bool (x.equals y))
  | unequal, [x, y] => some (.bool (!x.equals y))
  | less, [x, y] => x.less? y
  | greater, [x, y] => y.less? x
  | lessEqual, [x, y] => x.lessEqual? y
  | greaterEqual, [x, y] => y.lessEqual? x
  | and, [x, y] => x.logic? (· && ·) y
  | or, [x, y] => x.logic? (· || ·) y
  | not, [x] => x.bool?.map fun value => .bool (!value)
  | tuple, items => some (.tuple items)
  | chain, items => items.getLast?
  | constant value, [] => some value
  | binding name, [] => bindings.get? name
  | function name, [x] => x.call? name
  | _, _ => none

namespace Tree

mutual

/-- The value of a tree. All operands must have values. -/
def value? (bindings : Bindings) : Tree → Option Operand
  | node symbol operands => (values? bindings operands).bind fun values =>
      symbol.apply? bindings values.reverse

def values? (bindings : Bindings) : List Tree → Option (List Operand)
  | [] => some []
  | tree :: trees =>
      match tree.value? bindings, values? bindings trees with
      | some value, some values => some (value :: values)
      | _, _ => none

end

end Tree

/-- Whether a condition holds, if it has a value. -/
def holds? (condition : String) (bindings : Bindings) : Option Bool := do
  let tokens ← tokensOf? condition
  let tree ← Tree.ofTokens? tokens
  let value ← tree.value? bindings
  return value.isTruthy

end SheetCompiler.Condition

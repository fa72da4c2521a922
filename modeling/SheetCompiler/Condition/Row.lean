import SheetCompiler.Condition
import SheetCompiler.Validation.Rule
import SheetCompiler.Value.Reading

/-!
# Conditions on rows

What the names of a condition stand for in a data row: each field for its typed
value, or for its text when it has none, and `row_number` for the number of the
row.
-/

set_option autoImplicit false

namespace SheetCompiler

/-- A name that cannot be bound because it already stands for a value of another
type. -/
inductive BindingClash where
  | field (name : String)
  | rowNumber
  deriving DecidableEq, Repr

def BindingClash.message : BindingClash → String
  | field name => s!"Binding field '{name}'"
  | rowNumber => "Binding row_number"

namespace DataRow

open Condition (Bindings Operand)

/-- What the text of a cell stands for. -/
def operandOf (type : FieldType) (text : String) : Operand :=
  match Value.ofCell type text with
  | .ok value => .ofValue value
  | .error _ => .text text

/-- Binds the fields of some cells. -/
def bindCells (bindings : Bindings) : List (Field × String) → Except BindingClash Bindings
  | [] => .ok bindings
  | (field, text) :: cells =>
      match bindings.bind? field.name (operandOf field.type text) with
      | some bindings => bindCells bindings cells
      | none => .error (.field field.name)

def bindings (row : DataRow) : Except BindingClash Bindings := do
  let bindings ← bindCells .empty row.cells
  match bindings.bind? "row_number" (.int (Int64.ofNat row.number)) with
  | some bindings => .ok bindings
  | none => .error .rowNumber

/-- Whether a condition holds on a row. A condition without a value does not. -/
def satisfies (row : DataRow) (condition : String) : Bool :=
  match row.bindings with
  | .ok bindings => (Condition.holds? condition bindings).getD false
  | .error _ => false

end DataRow

end SheetCompiler

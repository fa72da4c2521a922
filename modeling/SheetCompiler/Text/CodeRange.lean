import SheetCompiler.Text.Basic

/-!
# Ranges of code points

Sets of code points and mappings between them, written compactly: `41-5a` is a
range, `100-12e/2` is every second code point of one, and `61-7a:-20` moves a
range by a displacement. All numbers are hexadecimal.
-/

set_option autoImplicit false

namespace SheetCompiler.Text

/-- The value of a hexadecimal digit in lower case; other characters count as
zero. -/
def hexValue (c : Char) : Nat :=
  if c.isDigit then c.toNat - '0'.toNat
  else if 'a' ≤ c ∧ c ≤ 'f' then c.toNat - 'a'.toNat + 10
  else 0

def hexNumber (cs : List Char) : Nat := cs.foldl (fun acc c => 16 * acc + hexValue c) 0

/-- The code points from `first` to `last` in steps of `stride`. -/
structure CodeRange where
  first : Nat
  last : Nat
  stride : Nat
  deriving DecidableEq, Repr

namespace CodeRange

def contains (range : CodeRange) (n : Nat) : Bool :=
  range.first ≤ n && n ≤ range.last && (n - range.first) % range.stride == 0

def ofChars (cs : List Char) : CodeRange :=
  let (bounds, stride) :=
    match cut? (· == '/') cs with
    | some (bounds, stride) => (bounds, hexNumber stride)
    | none => (cs, 1)
  match cut? (· == '-') bounds with
  | some (first, last) => ⟨hexNumber first, hexNumber last, stride⟩
  | none => ⟨hexNumber bounds, hexNumber bounds, stride⟩

/-- The ranges of a table, separated by blanks. -/
def ofText (text : String) : List CodeRange :=
  (trimmedPieces isBlank text.toList).map ofChars

/-- Membership in a table. -/
def containsChar (ranges : List CodeRange) (c : Char) : Bool :=
  ranges.any fun range => range.contains c.toNat

end CodeRange

/-- A range of code points that moves by a displacement. -/
structure CodeShift where
  range : CodeRange
  displacement : Int
  deriving DecidableEq, Repr

namespace CodeShift

def displacementOfChars : List Char → Int
  | '-' :: digits => -(hexNumber digits : Int)
  | digits => hexNumber digits

def ofChars (cs : List Char) : CodeShift :=
  match cut? (· == ':') cs with
  | some (range, displacement) => ⟨.ofChars range, displacementOfChars displacement⟩
  | none => ⟨.ofChars cs, 0⟩

/-- The shifts of a table, separated by blanks. -/
def ofText (text : String) : List CodeShift :=
  (trimmedPieces isBlank text.toList).map ofChars

/-- The code points that single ones map to, as `df>53+53`. -/
def specialOfText (text : String) : List (Nat × List Nat) :=
  (trimmedPieces isBlank text.toList).map fun entry =>
    match cut? (· == '>') entry with
    | some (source, images) => (hexNumber source, (pieces (· == '+') images).map hexNumber)
    | none => (hexNumber entry, [])

/-- The image of a code point under the shift whose range holds it. -/
def image? (shifts : List CodeShift) (n : Nat) : Option Nat :=
  (shifts.find? fun shift => shift.range.contains n).map fun shift =>
    ((n : Int) + shift.displacement).toNat

/-- The code points that a table maps to `n`. -/
def preimages (shifts : List CodeShift) (n : Nat) : List Nat :=
  shifts.filterMap fun shift =>
    let source := (n : Int) - shift.displacement
    if 0 ≤ source ∧ shift.range.contains source.toNat then some source.toNat else none

end CodeShift

end SheetCompiler.Text

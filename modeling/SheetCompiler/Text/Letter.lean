import SheetCompiler.Text.Category
import SheetCompiler.Text.Letter.Table

/-!
# Letters

Derived properties and case mappings of characters. ASCII characters are
answered by the rules of ASCII, all others by the tables.
-/

set_option autoImplicit false

namespace SheetCompiler.Text.Letter

def isAscii (c : Char) : Bool := c.toNat < 128

def isAlphabetic (c : Char) : Bool :=
  if isAscii c then c.isAlpha
  else
    Category.anyContains (.letterNumber :: Category.letters) c ||
      CodeRange.containsChar Table.otherAlphabetic c

def isNumeric (c : Char) : Bool :=
  if isAscii c then c.isDigit else Category.anyContains Category.numbers c

def isAlphanumeric (c : Char) : Bool := isAlphabetic c || isNumeric c

def isUppercase (c : Char) : Bool :=
  if isAscii c then c.isUpper
  else
    Category.uppercaseLetter.contains c || CodeRange.containsChar Table.otherUppercase c

def isLowercase (c : Char) : Bool :=
  if isAscii c then c.isLower
  else
    Category.lowercaseLetter.contains c || CodeRange.containsChar Table.otherLowercase c

/-- The image of a character under a table of several-character images and a
table of shifts. -/
def mapped (special : List (Nat × List Nat)) (shifts : List CodeShift) (c : Char) :
    List Char :=
  match special.find? fun entry => entry.1 == c.toNat with
  | some (_, images) => images.map Char.ofNat
  | none =>
      match CodeShift.image? shifts c.toNat with
      | some image => [Char.ofNat image]
      | none => [c]

/-- The upper case form of a character, which may have several characters. -/
def toUpper (c : Char) : List Char :=
  if isAscii c then [c.toUpper] else mapped Table.upperSpecial Table.upper c

/-- The lower case form of a character, which may have several characters. -/
def toLower (c : Char) : List Char :=
  if isAscii c then [c.toLower] else mapped Table.lowerSpecial Table.lower c

/-- The representative of a character under simple case folding. -/
def foldCode (c : Char) : Nat := (CodeShift.image? Table.fold c.toNat).getD c.toNat

/-- All characters that are equal to `c` up to case, `c` included. -/
def caseVariants (c : Char) : List Char :=
  let representative := foldCode c
  (representative :: CodeShift.preimages Table.fold representative).map Char.ofNat

end SheetCompiler.Text.Letter

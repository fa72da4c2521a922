import SheetCompiler.Text.Category.Table

/-!
# General categories

The Unicode general category of a character.
-/

set_option autoImplicit false

namespace SheetCompiler.Text

/-- A general category; unassigned code points and surrogates have none. -/
inductive Category where
  | uppercaseLetter | lowercaseLetter | titlecaseLetter | modifierLetter | otherLetter
  | nonspacingMark | spacingMark | enclosingMark
  | decimalNumber | letterNumber | otherNumber
  | connectorPunctuation | dashPunctuation | openPunctuation | closePunctuation
  | initialPunctuation | finalPunctuation | otherPunctuation
  | mathSymbol | currencySymbol | modifierSymbol | otherSymbol
  | spaceSeparator | lineSeparator | paragraphSeparator
  | control | format | privateUse
  deriving DecidableEq, Repr

namespace Category

def all : List Category :=
  [.uppercaseLetter, .lowercaseLetter, .titlecaseLetter, .modifierLetter, .otherLetter,
    .nonspacingMark, .spacingMark, .enclosingMark,
    .decimalNumber, .letterNumber, .otherNumber,
    .connectorPunctuation, .dashPunctuation, .openPunctuation, .closePunctuation,
    .initialPunctuation, .finalPunctuation, .otherPunctuation,
    .mathSymbol, .currencySymbol, .modifierSymbol, .otherSymbol,
    .spaceSeparator, .lineSeparator, .paragraphSeparator,
    .control, .format, .privateUse]

def ranges : Category → List CodeRange
  | .uppercaseLetter => Table.uppercaseLetter
  | .lowercaseLetter => Table.lowercaseLetter
  | .titlecaseLetter => Table.titlecaseLetter
  | .modifierLetter => Table.modifierLetter
  | .otherLetter => Table.otherLetter
  | .nonspacingMark => Table.nonspacingMark
  | .spacingMark => Table.spacingMark
  | .enclosingMark => Table.enclosingMark
  | .decimalNumber => Table.decimalNumber
  | .letterNumber => Table.letterNumber
  | .otherNumber => Table.otherNumber
  | .connectorPunctuation => Table.connectorPunctuation
  | .dashPunctuation => Table.dashPunctuation
  | .openPunctuation => Table.openPunctuation
  | .closePunctuation => Table.closePunctuation
  | .initialPunctuation => Table.initialPunctuation
  | .finalPunctuation => Table.finalPunctuation
  | .otherPunctuation => Table.otherPunctuation
  | .mathSymbol => Table.mathSymbol
  | .currencySymbol => Table.currencySymbol
  | .modifierSymbol => Table.modifierSymbol
  | .otherSymbol => Table.otherSymbol
  | .spaceSeparator => Table.spaceSeparator
  | .lineSeparator => Table.lineSeparator
  | .paragraphSeparator => Table.paragraphSeparator
  | .control => Table.control
  | .format => Table.format
  | .privateUse => Table.privateUse

/-- Whether a character belongs to the category. -/
def contains (category : Category) (c : Char) : Bool :=
  CodeRange.containsChar category.ranges c

/-- Whether a character belongs to one of the categories. -/
def anyContains (categories : List Category) (c : Char) : Bool :=
  categories.any fun category => category.contains c

def letters : List Category :=
  [.uppercaseLetter, .lowercaseLetter, .titlecaseLetter, .modifierLetter, .otherLetter]

def marks : List Category := [.nonspacingMark, .spacingMark, .enclosingMark]

def numbers : List Category := [.decimalNumber, .letterNumber, .otherNumber]

end Category

end SheetCompiler.Text

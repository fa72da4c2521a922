import SheetCompiler.Text.Category
import SheetCompiler.Text.Letter

/-!
# Character classes

Sets of characters as a pattern writes them: ranges, Unicode properties, and
their unions, intersections and complements, up to case where wanted.
-/

set_option autoImplicit false

namespace SheetCompiler.Pattern

/-- A set of characters that a table or a rule tells. -/
inductive Property where
  | anything
  | ascii
  | assigned
  | alphabetic
  | lowercase
  | uppercase
  | changedByLower
  | changedByUpper
  | blank
  | word
  | category (members : List Text.Category)
  | unassigned
  | other
  | listed (ranges : List Text.CodeRange)
  deriving DecidableEq, Repr

namespace Property

/-- Letters, marks, decimal digits, connecting punctuation and the two joiners. -/
def isWord (c : Char) : Bool :=
  if Text.Letter.isAscii c then c.isAlphanum || c == '_'
  else
    Text.Letter.isAlphabetic c ||
      Text.Category.anyContains
        (.decimalNumber :: .connectorPunctuation :: Text.Category.marks) c ||
      c == '\u200C' || c == '\u200D'

def isAssigned (c : Char) : Bool := Text.Category.anyContains Text.Category.all c

def contains (c : Char) : Property → Bool
  | anything => true
  | ascii => Text.Letter.isAscii c
  | assigned => isAssigned c
  | alphabetic => Text.Letter.isAlphabetic c
  | lowercase => Text.Letter.isLowercase c
  | uppercase => Text.Letter.isUppercase c
  | changedByLower => Text.Letter.toLower c != [c]
  | changedByUpper => Text.Letter.toUpper c != [c]
  | blank => Text.isBlank c
  | word => isWord c
  | category members => Text.Category.anyContains members c
  | unassigned => !isAssigned c
  | other => !isAssigned c || Text.Category.anyContains [.control, .format, .privateUse] c
  | listed ranges => Text.CodeRange.containsChar ranges c

/-- A property name without case, blanks, hyphens, underscores and a leading
`is`. -/
def looseName (name : List Char) : String :=
  let hasIs := Text.lower (name.take 2) == ['i', 's']
  let body := if hasIs then name.drop 2 else name
  let kept := Text.lower (body.filter fun c =>
    c != ' ' && c != '_' && c != '-' && Text.Letter.isAscii c)
  if hasIs ∧ kept = ['c'] then "isc" else String.ofList kept

/-- The property of a general category or of a group of them. -/
def ofCategoryName? : String → Option Property
  | "any" => some anything
  | "ascii" => some ascii
  | "assigned" => some assigned
  | "l" | "letter" => some (category Text.Category.letters)
  | "lc" | "casedletter" =>
      some (category [.uppercaseLetter, .lowercaseLetter, .titlecaseLetter])
  | "lu" | "uppercaseletter" => some (category [.uppercaseLetter])
  | "ll" | "lowercaseletter" => some (category [.lowercaseLetter])
  | "lt" | "titlecaseletter" => some (category [.titlecaseLetter])
  | "lm" | "modifierletter" => some (category [.modifierLetter])
  | "lo" | "otherletter" => some (category [.otherLetter])
  | "m" | "mark" | "combiningmark" => some (category Text.Category.marks)
  | "mn" | "nonspacingmark" => some (category [.nonspacingMark])
  | "mc" | "spacingmark" => some (category [.spacingMark])
  | "me" | "enclosingmark" => some (category [.enclosingMark])
  | "n" | "number" => some (category Text.Category.numbers)
  | "nd" | "decimalnumber" | "digit" => some (category [.decimalNumber])
  | "nl" | "letternumber" => some (category [.letterNumber])
  | "no" | "othernumber" => some (category [.otherNumber])
  | "p" | "punctuation" | "punct" =>
      some (category [.connectorPunctuation, .dashPunctuation, .openPunctuation,
        .closePunctuation, .initialPunctuation, .finalPunctuation, .otherPunctuation])
  | "pc" | "connectorpunctuation" => some (category [.connectorPunctuation])
  | "pd" | "dashpunctuation" => some (category [.dashPunctuation])
  | "ps" | "openpunctuation" => some (category [.openPunctuation])
  | "pe" | "closepunctuation" => some (category [.closePunctuation])
  | "pi" | "initialpunctuation" => some (category [.initialPunctuation])
  | "pf" | "finalpunctuation" => some (category [.finalPunctuation])
  | "po" | "otherpunctuation" => some (category [.otherPunctuation])
  | "s" | "symbol" =>
      some (category [.mathSymbol, .currencySymbol, .modifierSymbol, .otherSymbol])
  | "sm" | "mathsymbol" => some (category [.mathSymbol])
  | "sc" | "currencysymbol" => some (category [.currencySymbol])
  | "sk" | "modifiersymbol" => some (category [.modifierSymbol])
  | "so" | "othersymbol" => some (category [.otherSymbol])
  | "z" | "separator" =>
      some (category [.spaceSeparator, .lineSeparator, .paragraphSeparator])
  | "zs" | "spaceseparator" => some (category [.spaceSeparator])
  | "zl" | "lineseparator" => some (category [.lineSeparator])
  | "zp" | "paragraphseparator" => some (category [.paragraphSeparator])
  | "c" | "other" => some other
  | "cc" | "control" | "cntrl" => some (category [.control])
  | "cf" | "format" => some (category [.format])
  | "co" | "privateuse" => some (category [.privateUse])
  | "cn" | "unassigned" => some unassigned
  | _ => none

/-- The number of ranges of the larger properties, roughly. -/
def rangeCount : Property → Nat
  | anything | ascii => 2
  | assigned | unassigned | other => 700
  | alphabetic | word => 740
  | lowercase | uppercase | changedByLower | changedByUpper => 650
  | blank => 10
  | category members => (members.flatMap fun member => member.ranges).length
  | listed ranges => ranges.length

end Property

inductive CharClass where
  | never
  | range (first last : Char)
  | property (set : Property)
  | complement (cls : CharClass)
  | union (left right : CharClass)
  | inter (left right : CharClass)
  | anyCase (cls : CharClass)
  | anyAsciiCase (cls : CharClass)
  deriving DecidableEq, Repr

namespace CharClass

def one (c : Char) : CharClass := range c c

def listed (ranges : List Text.CodeRange) : CharClass := property (.listed ranges)

def ofCategories (members : List Text.Category) : CharClass := property (.category members)

def anyOf (classes : List CharClass) : CharClass := classes.foldr union never

/-- A letter of ASCII with its partner of the other case. -/
def asciiVariants (c : Char) : List Char := [c, c.toLower, c.toUpper]

def contains : CharClass → Char → Bool
  | never, _ => false
  | range first last, c => first ≤ c && c ≤ last
  | property set, c => set.contains c
  | complement cls, c => !cls.contains c
  | union left right, c => left.contains c || right.contains c
  | inter left right, c => left.contains c && right.contains c
  | anyCase cls, c => (Text.Letter.caseVariants c).any cls.contains
  | anyAsciiCase cls, c => (asciiVariants c).any cls.contains

def difference (left right : CharClass) : CharClass := inter left (complement right)

def symmetricDifference (left right : CharClass) : CharClass :=
  union (difference left right) (difference right left)

def negateIf (negated : Bool) (cls : CharClass) : CharClass :=
  if negated then complement cls else cls

/-- The classes of ASCII characters with a name. -/
def ofAsciiName? : String → Option CharClass
  | "alnum" => some (union (range '0' '9') (union (range 'A' 'Z') (range 'a' 'z')))
  | "alpha" => some (union (range 'A' 'Z') (range 'a' 'z'))
  | "ascii" => some (range '\x00' '\x7f')
  | "blank" => some (union (one '\t') (one ' '))
  | "cntrl" => some (union (range '\x00' '\x1f') (one '\x7f'))
  | "digit" => some (range '0' '9')
  | "graph" => some (range '!' '~')
  | "lower" => some (range 'a' 'z')
  | "print" => some (range ' ' '~')
  | "punct" =>
      let lower := union (range '!' '/') (range ':' '@')
      some (union lower (union (range '[' '\x60') (range '\x7b' '~')))
  | "space" => some (union (range '\t' '\r') (one ' '))
  | "upper" => some (range 'A' 'Z')
  | "word" =>
      some (union (one '_') (union (range '0' '9') (union (range 'A' 'Z') (range 'a' 'z'))))
  | "xdigit" => some (union (range '0' '9') (union (range 'A' 'F') (range 'a' 'f')))
  | _ => none

/-- The room that the compiled form of a class takes, in bytes. -/
def weight : CharClass → Nat
  | never => 32
  | range _ last => if last.toNat < 128 then 32 else 128
  | property set => 64 * set.rangeCount
  | complement cls | anyCase cls | anyAsciiCase cls => cls.weight + 32
  | union left right | inter left right => left.weight + right.weight

end CharClass

end SheetCompiler.Pattern

/-!
# Places in a YAML text

Classes of characters, and how far a text has been read. Line breaks are written
alike before a text is read: what counts as one is a line feed, or one of the two
separators.
-/

set_option autoImplicit false

namespace SheetCompiler.Yaml

def isBreak (c : Char) : Bool := c == '\n' || c == '\u2028' || c == '\u2029'

def isBlank (c : Char) : Bool := c == ' ' || c == '\t'

/-- A character between words. -/
def isGap (c : Char) : Bool := isBlank c || isBreak c

/-- Whether a word ends here. -/
def endsWord : List Char → Bool
  | [] => true
  | c :: _ => isGap c

/-- A character that a text may hold. -/
def isAllowed (c : Char) : Bool :=
  let n := c.toNat
  n == 0x09 || n == 0x0A || n == 0x0D || (0x20 ≤ n && n ≤ 0x7E) || n == 0x85 ||
    (0xA0 ≤ n && n ≤ 0xFFFD) || 0x10000 ≤ n

/-- A text with a line feed for every line break that is no separator. -/
def withLineFeeds : List Char → List Char
  | '\r' :: '\n' :: cs => '\n' :: withLineFeeds cs
  | '\r' :: cs => '\n' :: withLineFeeds cs
  | '\u0085' :: cs => '\n' :: withLineFeeds cs
  | c :: cs => c :: withLineFeeds cs
  | [] => []

/-- A place: the characters and lines before it, and those before it on its line. -/
structure Place where
  offset : Nat
  line : Nat
  column : Nat
  deriving DecidableEq, Repr

namespace Place

def start : Place := ⟨0, 0, 0⟩

/-- The place behind a character. -/
def next (place : Place) (c : Char) : Place :=
  if isBreak c then ⟨place.offset + 1, place.line + 1, 0⟩
  else ⟨place.offset + 1, place.line, place.column + 1⟩

/-- The place behind a text. -/
def after (place : Place) (cs : List Char) : Place := cs.foldl next place

end Place

/-- Three times `sign` and then the end of a word. -/
def isMarker (sign : Char) : List Char → Bool
  | a :: b :: c :: cs => a == sign && b == sign && c == sign && endsWord cs
  | _ => false

/-- Whether a line begins with the mark of the start or the end of a document. -/
def atMarker (place : Place) (cs : List Char) : Bool :=
  place.column == 0 && (isMarker '-' cs || isMarker '.' cs)

end SheetCompiler.Yaml

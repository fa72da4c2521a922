import SheetCompiler.Pattern.CharClass

/-!
# Patterns

Regular expressions and their matches. A match is decided by position sets: a
pattern takes the set of positions of a text where a match may start to the set
of those where it may end. A set is a list of marks, one for each position
before, between and after the characters.
-/

set_option autoImplicit false

namespace SheetCompiler

namespace Pattern

/-- Which characters count as parts of words at a word edge. -/
inductive WordSet where
  | unicode
  | ascii
  deriving DecidableEq, Repr

def WordSet.contains : WordSet → Char → Bool
  | unicode, c => Property.isWord c
  | ascii, c => c.isAlphanum || c == '_'

/-- A condition on the characters before and after a position. -/
inductive Assertion where
  | textStart
  | textEnd
  | lineStart
  | lineEnd
  | lineStartAnyBreak
  | lineEndAnyBreak
  | wordEdge (set : WordSet)
  | noWordEdge (set : WordSet)
  | wordStart (set : WordSet)
  | wordEnd (set : WordSet)
  | noWordBefore (set : WordSet)
  | noWordAfter (set : WordSet)
  deriving DecidableEq, Repr

/-- Whether there is a character, and it is part of a word. -/
def isWordAt (set : WordSet) (c : Option Char) : Bool := (c.map set.contains).getD false

/-- Whether the assertion holds between two characters; `none` stands for an end
of the text. -/
def Assertion.holds (before after : Option Char) : Assertion → Bool
  | textStart => before.isNone
  | textEnd => after.isNone
  | lineStart => before.isNone || before == some '\n'
  | lineEnd => after.isNone || after == some '\n'
  | lineStartAnyBreak =>
      before.isNone || before == some '\n' || (before == some '\r' && after != some '\n')
  | lineEndAnyBreak =>
      after.isNone || after == some '\r' || (after == some '\n' && before != some '\r')
  | wordEdge set => isWordAt set before != isWordAt set after
  | noWordEdge set => isWordAt set before == isWordAt set after
  | wordStart set => !isWordAt set before && isWordAt set after
  | wordEnd set => isWordAt set before && !isWordAt set after
  | noWordBefore set => !isWordAt set before
  | noWordAfter set => !isWordAt set after

end Pattern

inductive Pattern where
  | empty
  | one (cls : Pattern.CharClass)
  | look (assertion : Pattern.Assertion)
  | seq (first second : Pattern)
  | either (left right : Pattern)
  | repeated (body : Pattern) (least : Nat) (most : Option Nat)
  deriving DecidableEq, Repr

namespace Pattern

/-- A set of positions in a text: one mark more than there are characters. -/
abbrev Marks := List Bool

namespace Marks

def none (marks : Marks) : Bool := marks.all fun mark => !mark

def union (left right : Marks) : Marks := List.zipWith or left right

def without (left right : Marks) : Marks :=
  List.zipWith (fun mark other => mark && !other) left right

/-- The positions after a character of a class. -/
def advance (cls : CharClass) (text : List Char) (marks : Marks) : Marks :=
  false :: List.zipWith (fun mark c => mark && cls.contains c) marks text

/-- The characters around each position. -/
def surroundings (before : Option Char) : List Char → List (Option Char × Option Char)
  | [] => [(before, Option.none)]
  | c :: cs => (before, some c) :: surroundings (some c) cs

/-- The positions where an assertion holds. -/
def holding (assertion : Assertion) (text : List Char) (marks : Marks) : Marks :=
  List.zipWith (fun mark (before, after) => mark && assertion.holds before after) marks
    (surroundings Option.none text)

/-- Adds what up to `fuel` further steps reach from the newest positions. -/
def spread (step : Marks → Marks) : (fuel : Nat) → (seen newest : Marks) → Marks
  | 0, seen, _ => seen
  | fuel + 1, seen, newest =>
      if newest.none then seen
      else
        let reached := (step newest).without seen
        spread step fuel (seen.union reached) reached

/-- Takes a number of steps. -/
def iterate (step : Marks → Marks) : Nat → Marks → Marks
  | 0, marks => marks
  | n + 1, marks => iterate step n (step marks)

end Marks

/-- The positions where a match may end that starts at one of the marks. A step
never goes back, so as many steps as there are positions reach all that any
number of steps does. -/
def reach (text : List Char) : Pattern → Marks → Marks
  | empty, marks => marks
  | one cls, marks => marks.advance cls text
  | look assertion, marks => marks.holding assertion text
  | seq first second, marks => second.reach text (first.reach text marks)
  | either left right, marks => (left.reach text marks).union (right.reach text marks)
  | repeated body least most, marks =>
      let limit := text.length + 1
      let started := Marks.iterate (body.reach text) (min least limit) marks
      let extra := (most.map fun most => min (most - least) limit).getD limit
      Marks.spread (body.reach text) extra started started

/-- Whether the pattern matches some part of a text. -/
def isFoundIn (pattern : Pattern) (text : String) : Bool :=
  let cs := text.toList
  (pattern.reach cs (List.replicate (cs.length + 1) true)).any id

/-- The room that the compiled form of a pattern takes, in bytes. Repeated parts
are compiled as often as they may have to occur. -/
def weight : Pattern → Nat
  | empty | look _ => 32
  | one cls => cls.weight
  | seq first second | either first second => first.weight + second.weight
  | repeated body least most => (body.weight + 32) * max 1 (most.getD (least + 1))

end Pattern

end SheetCompiler

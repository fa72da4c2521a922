import SheetCompiler.Text.Letter

/-!
# Word casing

Identifiers in snake case, in upper snake case and in camel case. A text is cut
into words at characters that are neither letters nor digits, between a lower
and an upper case letter, and before the last of several upper case letters that
a lower case letter follows.
-/

set_option autoImplicit false

namespace SheetCompiler.Text.Casing

/-- What the characters of a word so far say about its case. -/
inductive Mode where
  | boundary
  | lowercase
  | uppercase
  deriving DecidableEq, Repr

/-- The mode with a further character of the same word. -/
def Mode.next (mode : Mode) (c : Char) : Mode :=
  if Letter.isLowercase c then .lowercase
  else if Letter.isUppercase c then .uppercase
  else mode

/-- Cuts a run of letters and digits into words. `word` holds the characters of
the current word in reverse. -/
def cutRun (mode : Mode) (word : List Char) : List Char → List (List Char)
  | [] => if word.isEmpty then [] else [word.reverse]
  | [c] => [(c :: word).reverse]
  | c :: next :: rest =>
      let mode' := mode.next c
      if mode' = .lowercase ∧ Letter.isUppercase next then
        (c :: word).reverse :: cutRun .boundary [] (next :: rest)
      else if mode = .uppercase ∧ Letter.isUppercase c ∧ Letter.isLowercase next then
        word.reverse :: cutRun .boundary [c] (next :: rest)
      else cutRun mode' (c :: word) (next :: rest)

/-- The words of a text. -/
def words (cs : List Char) : List (List Char) :=
  (pieces (fun c => !Letter.isAlphanumeric c) cs).flatMap (cutRun .boundary [])

def upperWord (word : List Char) : List Char := word.flatMap Letter.toUpper

/-- A word in lower case. A sigma at the end takes its final form. -/
def lowerWord : List Char → List Char
  | [] => []
  | [c] => if c == 'Σ' then ['ς'] else Letter.toLower c
  | c :: rest => Letter.toLower c ++ lowerWord rest

/-- A word with its first character in upper case and the others in lower case. -/
def capitalWord : List Char → List Char
  | [] => []
  | c :: rest => Letter.toUpper c ++ lowerWord rest

/-- Words in lower case joined by underscores. -/
def snake (text : String) : String :=
  joined "_" ((words text.toList).map fun word => String.ofList (lowerWord word))

/-- Words in upper case joined by underscores. -/
def upperSnake (text : String) : String :=
  joined "_" ((words text.toList).map fun word => String.ofList (upperWord word))

/-- Capitalized words without separators. -/
def camel (text : String) : String :=
  String.ofList ((words text.toList).flatMap capitalWord)

end SheetCompiler.Text.Casing

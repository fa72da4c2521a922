/-!
# Text

Cutting and cleaning of text. Every operation is defined on the list of
characters; the operations on `String` only wrap it. Blank characters are those
of the Unicode property `White_Space`.
-/

set_option autoImplicit false

namespace SheetCompiler.Text

/-- Membership in the Unicode property `White_Space`. -/
def isBlank (c : Char) : Bool :=
  let n := c.toNat
  (9 ≤ n && n ≤ 13) || n == 0x20 || n == 0x85 || n == 0xA0 || n == 0x1680 ||
    (0x2000 ≤ n && n ≤ 0x200A) || n == 0x2028 || n == 0x2029 || n == 0x202F ||
    n == 0x205F || n == 0x3000

/-- Drops the blanks in front. -/
def trimStart (cs : List Char) : List Char := cs.dropWhile isBlank

/-- Drops what satisfies `p` at the end. -/
def dropEndWhile {α : Type} (p : α → Bool) (items : List α) : List α :=
  (items.reverse.dropWhile p).reverse

/-- Drops the blanks at the end. -/
def trimEnd (cs : List Char) : List Char := dropEndWhile isBlank cs

/-- Drops the blanks at both ends. -/
def trim (cs : List Char) : List Char := trimEnd (trimStart cs)

/-- The pieces between separators: one more piece than there are separators. -/
def pieces (isSeparator : Char → Bool) : List Char → List (List Char)
  | [] => [[]]
  | c :: cs =>
      if isSeparator c then [] :: pieces isSeparator cs
      else
        match pieces isSeparator cs with
        | [] => [[c]]
        | piece :: rest => (c :: piece) :: rest

/-- The texts before and after the first separator. -/
def cut? (isSeparator : Char → Bool) : List Char → Option (List Char × List Char)
  | [] => none
  | c :: cs =>
      if isSeparator c then some ([], cs)
      else (cut? isSeparator cs).map fun (before, after) => (c :: before, after)

/-- The trimmed pieces between separators, without those that are blank. -/
def trimmedPieces (isSeparator : Char → Bool) (cs : List Char) : List (List Char) :=
  ((pieces isSeparator cs).map trim).filter fun piece => !piece.isEmpty

/-- The rest of a text that starts with `front`. -/
def stripFront? : (front cs : List Char) → Option (List Char)
  | [], cs => some cs
  | f :: front, c :: cs => if f = c then stripFront? front cs else none
  | _ :: _, [] => none

/-- The rest of a text that ends with `back`. -/
def stripBack? (back cs : List Char) : Option (List Char) :=
  (stripFront? back.reverse cs.reverse).map List.reverse

theorem stripFront?_eq_some_iff {front cs rest : List Char} :
    stripFront? front cs = some rest ↔ cs = front ++ rest := by
  induction front generalizing cs with
  | nil => simp [stripFront?]
  | cons f front ih =>
      cases cs with
      | nil => simp [stripFront?]
      | cons c cs =>
          by_cases same : f = c
          · simp [stripFront?, same, ih]
          · simp [stripFront?, same, Ne.symm same]

theorem stripBack?_eq_some_iff {back cs rest : List Char} :
    stripBack? back cs = some rest ↔ cs = rest ++ back := by
  unfold stripBack?
  constructor
  · intro stripped
    obtain ⟨reversed, equation, rfl⟩ := Option.map_eq_some_iff.mp stripped
    have := congrArg List.reverse (stripFront?_eq_some_iff.mp equation)
    simpa using this
  · rintro rfl
    exact Option.map_eq_some_iff.mpr
      ⟨rest.reverse, stripFront?_eq_some_iff.mpr (by simp), by simp⟩

/-- ASCII letters in lower case; every other character stays. -/
def lower (cs : List Char) : List Char := cs.map Char.toLower

/-- The rest of a text that starts with `front` up to the case of ASCII letters. -/
def stripFrontAnyCase? (front cs : List Char) : Option (List Char) :=
  if lower (cs.take front.length) == lower front then some (cs.drop front.length) else none

/-- Whether `needle` occurs in a text. -/
def hasInfix (needle : List Char) : List Char → Bool
  | [] => needle.isEmpty
  | c :: cs => needle.isPrefixOf (c :: cs) || hasInfix needle cs

/-- A text without the blanks at its ends. -/
def trimmed (text : String) : String := String.ofList (trim text.toList)

/-- Whether a text has nothing but blanks. -/
def isBlankText (text : String) : Bool := text.toList.all isBlank

/-- A text with its ASCII letters in lower case. -/
def lowered (text : String) : String := String.ofList (lower text.toList)

/-- Texts one after the other with `separator` between neighbours. -/
def joined (separator : String) (texts : List String) : String :=
  separator.intercalate texts

/-- Pads at the end to a number of characters. -/
def padEnd (width : Nat) (text : String) : String :=
  text ++ String.ofList (List.replicate (width - text.length) ' ')

end SheetCompiler.Text

import SheetCompiler.Condition.Operand
import SheetCompiler.Number.Decimal
import SheetCompiler.Text.CodeRange

/-!
# Tokens of conditions

A condition is cut into words, quoted texts, marks and blanks; comments vanish.
Marks that belong together and words that are numbers are then put together.
Conditions cannot assign, so the marks of assignments are refused.
-/

set_option autoImplicit false

namespace SheetCompiler.Condition

inductive Token where
  | plus | minus | star | slash | percent | hat
  | equal | unequal | greater | less | greaterEqual | lessEqual
  | and | or | not
  | opening | closing | comma | semicolon
  | name (text : String)
  | constant (value : Operand)
  deriving BEq, Repr

namespace Token

/-- Whether an operand may begin with the token. -/
def beginsOperand : Token → Bool
  | opening | name _ | constant _ => true
  | _ => false

/-- Whether an operand may end with the token. -/
def endsOperand : Token → Bool
  | closing | name _ | constant _ => true
  | _ => false

end Token

/-- A piece of a condition before marks and words are put together. -/
inductive Piece where
  | word (text : List Char)
  | quoted (text : String)
  | mark (c : Char)
  | space
  deriving DecidableEq, Repr

def isMark (c : Char) : Bool := "+-*/%^(),;=!><&|".toList.contains c

/-- Reads a quoted text behind its quote. Only quotes and backslashes can be
escaped. -/
def readQuoted? : List Char → Option (List Char × List Char)
  | [] => none
  | '"' :: cs => some ([], cs)
  | '\\' :: '"' :: cs => (readQuoted? cs).map fun (text, rest) => ('"' :: text, rest)
  | '\\' :: '\\' :: cs => (readQuoted? cs).map fun (text, rest) => ('\\' :: text, rest)
  | '\\' :: _ => none
  | c :: cs => (readQuoted? cs).map fun (text, rest) => (c :: text, rest)

/-- What is left behind the end of a comment between `/*` and `*/`. -/
def dropComment? : List Char → Option (List Char)
  | [] => none
  | '*' :: '/' :: cs => some cs
  | _ :: cs => dropComment? cs

/-- Puts a character in front of the pieces behind it. -/
def consWord (c : Char) : List Piece → List Piece
  | .word text :: pieces => .word (c :: text) :: pieces
  | pieces => .word [c] :: pieces

theorem length_of_readQuoted? {cs text rest : List Char}
    (read : readQuoted? cs = some (text, rest)) : rest.length < cs.length := by
  induction cs using readQuoted?.induct generalizing text rest with
  | case1 => simp [readQuoted?] at read
  | case2 cs =>
      simp only [readQuoted?, Option.some.injEq, Prod.mk.injEq] at read
      simp [← read.2]
  | case3 cs ih =>
      simp only [readQuoted?, Option.map_eq_some_iff, Prod.mk.injEq] at read
      obtain ⟨⟨inner, after⟩, innerRead, -, rfl⟩ := read
      have := ih innerRead
      simp only [List.length_cons]
      omega
  | case4 cs ih =>
      simp only [readQuoted?, Option.map_eq_some_iff, Prod.mk.injEq] at read
      obtain ⟨⟨inner, after⟩, innerRead, -, rfl⟩ := read
      have := ih innerRead
      simp only [List.length_cons]
      omega
  | case5 cs notQuote notBackslash =>
      rw [readQuoted?] at read
      · simp at read
      all_goals assumption
  | case6 c cs notQuote notEscapedQuote notEscapedBackslash notBackslash ih =>
      rw [readQuoted?] at read
      · simp only [Option.map_eq_some_iff, Prod.mk.injEq] at read
        obtain ⟨⟨inner, after⟩, innerRead, -, rfl⟩ := read
        exact Nat.lt_succ_of_lt (ih innerRead)
      all_goals assumption

theorem length_of_dropComment? {cs rest : List Char} (dropped : dropComment? cs = some rest) :
    rest.length < cs.length := by
  induction cs using dropComment?.induct with
  | case1 => simp [dropComment?] at dropped
  | case2 cs =>
      simp only [dropComment?, Option.some.injEq] at dropped
      subst dropped
      simp only [List.length_cons]
      omega
  | case3 c cs notEnd ih =>
      rw [dropComment?] at dropped
      · exact Nat.lt_succ_of_lt (ih dropped)
      · assumption

/-- Cuts a condition into pieces. -/
def pieces? : List Char → Option (List Piece)
  | [] => some []
  | '"' :: cs =>
      match _read : readQuoted? cs with
      | some (text, rest) => (pieces? rest).map (.quoted (String.ofList text) :: ·)
      | none => none
  | '/' :: '/' :: cs => pieces? ((cs.dropWhile (· != '\n')).drop 1)
  | '/' :: '*' :: cs =>
      match _dropped : dropComment? cs with
      | some rest => pieces? rest
      | none => none
  | c :: cs =>
      if isMark c then (pieces? cs).map (.mark c :: ·)
      else if Text.isBlank c then (pieces? cs).map (.space :: ·)
      else (pieces? cs).map (consWord c)
termination_by cs => cs.length
decreasing_by
  · have := length_of_readQuoted? _read
    simp only [List.length_cons]
    omega
  · have := (List.dropWhile_suffix (· != '\n') (l := cs)).length_le
    simp only [List.length_cons, List.length_drop]
    omega
  · have := length_of_dropComment? _dropped
    simp only [List.length_cons]
    omega
  all_goals simp

/-- The integer that a word denotes, in decimal or behind `0x` in hexadecimal. -/
def integer? (word : List Char) : Option Int64 :=
  let bounded (n : Nat) : Option Int64 :=
    if n ≤ 0x7FFFFFFFFFFFFFFF then some (Int64.ofNat n) else none
  match word with
  | '0' :: 'x' :: digits =>
      let lower := Text.lower digits
      if digits.isEmpty || !lower.all fun c => c.isDigit || ('a' ≤ c && c ≤ 'f') then none
      else bounded (Text.hexNumber lower)
  | digits =>
      if digits.isEmpty || !digits.all Char.isDigit then none
      else bounded (Decimal.digitsValue digits)

/-- The constant that a word denotes. -/
def constant? (word : List Char) : Option Operand :=
  match integer? word with
  | some n => some (.int n)
  | none =>
      match Decimal.read? word with
      | some x => some (.float x)
      | none =>
          match String.ofList word with
          | "true" => some (.bool true)
          | "false" => some (.bool false)
          | _ => none

/-- The token of a word, and the pieces behind it. A word before a sign and a
further word may be a number whose exponent has that sign. -/
def wordToken (word : List Char) (pieces : List Piece) : Token × List Piece :=
  match constant? word with
  | some value => (.constant value, pieces)
  | none =>
      let plain : Token × List Piece := (.name (String.ofList word), pieces)
      match pieces with
      | .mark sign :: .word digits :: rest =>
          if sign = '+' ∨ sign = '-' then
            match Decimal.read? (word ++ sign :: digits) with
            | some x => (.constant (.float x), rest)
            | none => plain
          else plain
      | _ => plain

theorem length_wordToken_le (word : List Char) (pieces : List Piece) :
    (wordToken word pieces).2.length ≤ pieces.length := by
  unfold wordToken
  split
  · exact Nat.le_refl _
  · split
    · split
      · split
        · simp only [List.length_cons]
          omega
        · exact Nat.le_refl _
      · exact Nat.le_refl _
    · exact Nat.le_refl _

/-- Whether a mark is one of those that an assignment puts before its equals sign. -/
def assigns (c : Char) : Bool := "+-*/%^".toList.contains c

/-- Puts pieces together to tokens. -/
def tokens? : List Piece → Option (List Token)
  | [] => some []
  | .space :: pieces => tokens? pieces
  | .quoted text :: pieces => (tokens? pieces).map (.constant (.text text) :: ·)
  | .word text :: pieces =>
      have := length_wordToken_le text pieces
      (tokens? (wordToken text pieces).2).map ((wordToken text pieces).1 :: ·)
  | .mark '=' :: .mark '=' :: pieces => (tokens? pieces).map (.equal :: ·)
  | .mark '!' :: .mark '=' :: pieces => (tokens? pieces).map (.unequal :: ·)
  | .mark '>' :: .mark '=' :: pieces => (tokens? pieces).map (.greaterEqual :: ·)
  | .mark '<' :: .mark '=' :: pieces => (tokens? pieces).map (.lessEqual :: ·)
  | .mark '&' :: .mark '&' :: .mark '=' :: _ => none
  | .mark '|' :: .mark '|' :: .mark '=' :: _ => none
  | .mark '&' :: .mark '&' :: pieces => (tokens? pieces).map (.and :: ·)
  | .mark '|' :: .mark '|' :: pieces => (tokens? pieces).map (.or :: ·)
  | .mark c :: pieces =>
      let followed (token : Token) : Option (List Token) := (tokens? pieces).map (token :: ·)
      if assigns c && pieces.head? == some (.mark '=') then none
      else
        match c with
        | '+' => followed .plus
        | '-' => followed .minus
        | '*' => followed .star
        | '/' => followed .slash
        | '%' => followed .percent
        | '^' => followed .hat
        | '(' => followed .opening
        | ')' => followed .closing
        | ',' => followed .comma
        | ';' => followed .semicolon
        | '!' => followed .not
        | '>' => followed .greater
        | '<' => followed .less
        | _ => none
termination_by pieces => pieces.length
decreasing_by all_goals (simp only [List.length_cons]; omega)

/-- The tokens of a condition. -/
def tokensOf? (text : String) : Option (List Token) := (pieces? text.toList).bind tokens?

end SheetCompiler.Condition

import SheetCompiler.Document
import SheetCompiler.Number.Integer

/-!
# JSON tokens

Cutting a JSON text into tokens, one character at a time. Words are runs of
letters, digits, signs and points; what they stand for is decided afterwards.
-/

set_option autoImplicit false

namespace SheetCompiler.Json

inductive Token where
  | openObject
  | closeObject
  | openArray
  | closeArray
  | colon
  | comma
  | word (chars : List Char)
  | string (value : String)
  deriving DecidableEq, Repr

/-- Where the lexer is. Characters read so far are held in reverse. -/
inductive Mode where
  | between
  | word (read : List Char)
  | string (read : List Char)
  | escape (read : List Char)
  /-- Inside the four digits of an escaped code unit, after the first half of a
  surrogate pair when there is one. -/
  | unit (read : List Char) (high : Option Nat) (value : Nat) (missing : Nat)
  /-- After the first half of a surrogate pair: a backslash must follow. -/
  | pairSlash (read : List Char) (high : Nat)
  /-- After that backslash: a `u` must follow. -/
  | pairLetter (read : List Char) (high : Nat)
  deriving DecidableEq, Repr

def hexDigit? (c : Char) : Option Nat :=
  if c.isDigit then some (c.toNat - '0'.toNat)
  else if 'a' ≤ c ∧ c ≤ 'f' then some (c.toNat - 'a'.toNat + 10)
  else if 'A' ≤ c ∧ c ≤ 'F' then some (c.toNat - 'A'.toNat + 10)
  else none

/-- The character of a one-letter escape. -/
def escapeChar? : Char → Option Char
  | '"' => some '"'
  | '\\' => some '\\'
  | '/' => some '/'
  | 'b' => some '\x08'
  | 'f' => some '\x0c'
  | 'n' => some '\n'
  | 'r' => some '\r'
  | 't' => some '\t'
  | _ => none

def isWordChar (c : Char) : Bool := c.isAlphanum || c == '+' || c == '-' || c == '.'

def isSpace (c : Char) : Bool := c == ' ' || c == '\n' || c == '\t' || c == '\r'

def punctuation? : Char → Option Token
  | '\x7b' => some .openObject
  | '\x7d' => some .closeObject
  | '[' => some .openArray
  | ']' => some .closeArray
  | ':' => some .colon
  | ',' => some .comma
  | _ => none

/-- The mode after a complete code unit. A first half of a pair waits for its
second half, and a second half on its own is no character. -/
def afterUnit? (read : List Char) (high : Option Nat) (value : Nat) : Option Mode :=
  match high with
  | some high =>
      if 0xDC00 ≤ value ∧ value ≤ 0xDFFF then
        some (.string (Char.ofNat (0x10000 + (high - 0xD800) * 0x400 + (value - 0xDC00)) :: read))
      else none
  | none =>
      if 0xD800 ≤ value ∧ value ≤ 0xDBFF then some (.pairSlash read value)
      else if 0xDC00 ≤ value ∧ value ≤ 0xDFFF then none
      else some (.string (Char.ofNat value :: read))

/-- Reads a character outside words and strings: the tokens it completes, in
front of them those that were pending, and the mode after it. -/
def stepBetween? (pending : List Token) (c : Char) : Option (List Token × Mode) :=
  if isSpace c then some (pending, .between)
  else if c == '"' then some (pending, .string [])
  else if isWordChar c then some (pending, .word [c])
  else (punctuation? c).map fun token => (pending ++ [token], .between)

/-- Reads one character. -/
def step? (mode : Mode) (c : Char) : Option (List Token × Mode) :=
  match mode with
  | .between => stepBetween? [] c
  | .word read =>
      if isWordChar c then some ([], .word (c :: read))
      else stepBetween? [.word read.reverse] c
  | .string read =>
      if c == '"' then some ([.string (String.ofList read.reverse)], .between)
      else if c == '\\' then some ([], .escape read)
      else if c.toNat < 0x20 then none
      else some ([], .string (c :: read))
  | .escape read =>
      if c == 'u' then some ([], .unit read none 0 4)
      else (escapeChar? c).map fun char => ([], .string (char :: read))
  | .unit read high value missing =>
      match hexDigit? c with
      | none => none
      | some digit =>
          let value := 16 * value + digit
          if missing = 1 then (afterUnit? read high value).map fun mode => ([], mode)
          else some ([], .unit read high value (missing - 1))
  | .pairSlash read high => if c == '\\' then some ([], .pairLetter read high) else none
  | .pairLetter read high => if c == 'u' then some ([], .unit read (some high) 0 4) else none

/-- The tokens that are complete at the end of the text. -/
def finish? : Mode → Option (List Token)
  | .between => some []
  | .word read => some [.word read.reverse]
  | _ => none

/-- The tokens of a text from a mode on. -/
def tokens? (mode : Mode) : List Char → Option (List Token)
  | [] => finish? mode
  | c :: cs => do
      let (complete, mode) ← step? mode c
      let rest ← tokens? mode cs
      return complete ++ rest

end SheetCompiler.Json

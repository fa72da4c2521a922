import SheetCompiler.Document.Yaml.Place
import SheetCompiler.Document.Yaml.Scalar

/-!
# Texts of YAML scalars

Reading the text of a scalar without quotes, in quotes, or in a block of lines.
Line breaks inside a scalar are folded: one alone becomes a space, and of several
the first is dropped.
-/

set_option autoImplicit false

namespace SheetCompiler.Yaml

/-- A scalar that has been read: its characters in reverse, what follows and where,
and whether a line break was read behind it. -/
structure ReadScalar where
  chars : List Char
  rest : List Char
  place : Place
  broken : Bool
  deriving DecidableEq, Repr

/-! ## Folding -/

/-- The blanks and line breaks between two words. After a line break, blanks do not
count. Blanks and later breaks are held in reverse. -/
structure Gap where
  blanks : List Char
  broken : Bool
  first : List Char
  later : List Char
  deriving DecidableEq, Repr

namespace Gap

def none : Gap := ⟨[], false, [], []⟩

/-- A line break that leaves nothing behind. -/
def joined : Gap := ⟨[], true, [], []⟩

def isNone (gap : Gap) : Bool := gap == none

def add (gap : Gap) (c : Char) : Gap :=
  if isBlank c then if gap.broken then gap else { gap with blanks := c :: gap.blanks }
  else if gap.broken then { gap with later := c :: gap.later }
  else ⟨[], true, [c], []⟩

/-- What a gap leaves between the words, in reverse. -/
def text (gap : Gap) : List Char :=
  if !gap.broken then gap.blanks
  else if gap.first = ['\n'] then if gap.later.isEmpty then [' '] else gap.later
  else gap.later ++ gap.first

end Gap

/-! ## Without quotes -/

/-- A sign with a meaning inside brackets. -/
def isFlowSign (c : Char) : Bool := [',', '[', ']', '\x7b', '\x7d'].contains c

/-- Reads a scalar without quotes, whose lines begin at a least column. -/
def readPlain? (inFlow : Bool) (least : Nat) (read : List Char) (gap : Gap) (place : Place) :
    List Char → Option ReadScalar
  | [] => some ⟨read, [], place, gap.broken⟩
  | c :: cs =>
      let ended := some ⟨read, c :: cs, place, gap.broken⟩
      if isGap c then
        if gap.broken && place.column < least && c == '\t' then none
        else readPlain? inFlow least read (gap.add c) (place.next c) cs
      else if !gap.isNone &&
          ((!inFlow && place.column < least) || atMarker place (c :: cs) || c == '#') then ended
      else if inFlow && c == ':' &&
          ((cs.head?.map fun d => isFlowSign d || d == '?').getD false) then none
      else if (c == ':' && endsWord cs) || (inFlow && isFlowSign c) then ended
      else readPlain? inFlow least (c :: (gap.text ++ read)) .none (place.next c) cs

/-! ## In quotes -/

/-- What comes next in a quoted scalar. -/
inductive QuoteMode where
  | text
  | escape
  /-- Digits of the number of a character. -/
  | digits (missing value : Nat)
  deriving DecidableEq, Repr

/-- The character of an escape of one letter. -/
def escaped? : Char → Option Char
  | '0' => some '\x00'
  | 'a' => some '\x07'
  | 'b' => some '\x08'
  | 't' | '\t' => some '\t'
  | 'n' => some '\n'
  | 'v' => some '\x0b'
  | 'f' => some '\x0c'
  | 'r' => some '\r'
  | 'e' => some '\x1b'
  | ' ' => some ' '
  | '"' => some '"'
  | '/' => some '/'
  | '\\' => some '\\'
  | 'N' => some '\u0085'
  | '_' => some '\u00a0'
  | 'L' => some '\u2028'
  | 'P' => some '\u2029'
  | _ => none

/-- The number of digits behind an escape. -/
def escapedDigits? : Char → Option Nat
  | 'x' => some 2
  | 'u' => some 4
  | 'U' => some 8
  | _ => none

/-- Reads a scalar up to its closing quote. -/
def readQuoted? (quote : Char) (mode : QuoteMode) (read : List Char) (gap : Gap) (place : Place) :
    List Char → Option ReadScalar
  | [] => none
  | c :: cs =>
      let behind := place.next c
      match mode with
      | .digits missing value =>
          match digit? 16 c with
          | none => none
          | some digit =>
              let value := 16 * value + digit
              if 1 < missing then
                readQuoted? quote (.digits (missing - 1) value) read gap behind cs
              else if value.isValidChar then
                readQuoted? quote .text (Char.ofNat value :: read) gap behind cs
              else none
      | .escape =>
          if isBreak c then readQuoted? quote .text read .joined behind cs
          else
            match escaped? c, escapedDigits? c with
            | some d, _ => readQuoted? quote .text (d :: read) gap behind cs
            | none, some missing => readQuoted? quote (.digits missing 0) read gap behind cs
            | none, none => none
      | .text =>
          if isGap c then readQuoted? quote .text read (gap.add c) behind cs
          else if atMarker place (c :: cs) then none
          else
            let joined := gap.text ++ read
            if c == quote then
              match cs with
              | d :: ds =>
                  if quote == '\'' && d == '\'' then
                    readQuoted? quote .text ('\'' :: joined) .none (behind.next d) ds
                  else some ⟨joined, cs, behind, false⟩
              | [] => some ⟨joined, [], behind, false⟩
            else if quote == '"' && c == '\\' then
              readQuoted? quote .escape joined .none behind cs
            else readQuoted? quote .text (c :: joined) .none behind cs

/-! ## In a block -/

/-- What happens to the line breaks at the end of a block. -/
inductive Ending where
  | strip
  | clip
  | keep
  deriving DecidableEq, Repr

def ending? : Char → Option Ending
  | '-' => some .strip
  | '+' => some .keep
  | _ => none

/-- The number of a digit other than zero. -/
def indentation? (c : Char) : Option Nat := (digit? 10 c).filter fun n => 0 < n

/-- The signs behind the mark of a block: how it ends and how far it is indented,
in any order. -/
def blockSigns? : List Char → Option (Ending × Option Nat × List Char)
  | [] => some (.clip, none, [])
  | c :: cs =>
      match ending? c with
      | some ending =>
          match cs with
          | d :: ds =>
              if d.isDigit then (indentation? d).map fun n => (ending, some n, ds)
              else some (ending, none, cs)
          | [] => some (ending, none, [])
      | none =>
          if c.isDigit then
            (indentation? c).map fun n =>
              match cs with
              | d :: ds =>
                  match ending? d with
                  | some ending => (ending, some n, ds)
                  | none => (.clip, some n, cs)
              | [] => (.clip, some n, [])
          else some (.clip, none, c :: cs)

/-- The rest of a line, which may hold a comment, without its blanks. -/
def lineEnd? (cs : List Char) : Option (List Char) :=
  match cs.dropWhile isBlank with
  | [] => some []
  | c :: cs =>
      if c == '#' then some (cs.dropWhile fun c => !isBreak c)
      else if isBreak c then some (c :: cs)
      else none

/-- Empty lines of a block: their breaks in reverse, the largest column that was
reached, and what follows. -/
structure EmptyLines where
  breaks : List Char
  deepest : Nat
  rest : List Char
  place : Place
  deriving DecidableEq, Repr

/-- Reads empty lines and the indentation of the line behind them. While the
indentation is not known, all spaces belong to it. -/
def readEmptyLines? (indent : Option Nat) (breaks : List Char) (deepest : Nat) (place : Place) :
    List Char → Option EmptyLines
  | [] => some ⟨breaks, max deepest place.column, [], place⟩
  | c :: cs =>
      let deepest := max deepest place.column
      let isInside := (indent.map fun n => decide (place.column < n)).getD true
      if isInside && c == ' ' then readEmptyLines? indent breaks deepest (place.next c) cs
      else if isInside && c == '\t' then none
      else if isBreak c then readEmptyLines? indent (c :: breaks) deepest (place.next c) cs
      else some ⟨breaks, deepest, c :: cs, place⟩

/-- What has been read of a block: its characters, the break of the last line and
those of the empty lines behind it, each in reverse. -/
structure BlockText where
  chars : List Char
  last : List Char
  empty : List Char
  startsBlank : Bool
  deriving DecidableEq, Repr

/-- The characters before the next line. Where lines are folded, a break between
two lines that do not begin with a blank is not kept. -/
def BlockText.joined (block : BlockText) (folds startsBlank : Bool) : List Char :=
  if folds && block.last == ['\n'] && !block.startsBlank && !startsBlank then
    if block.empty.isEmpty then ' ' :: block.chars else block.empty ++ block.chars
  else block.empty ++ (block.last ++ block.chars)

def BlockText.finish (block : BlockText) : Ending → List Char
  | .strip => block.chars
  | .clip => block.last ++ block.chars
  | .keep => block.empty ++ (block.last ++ block.chars)

/-- Reads the lines of a block with a known indentation. -/
def readLines? (folds : Bool) (indent : Nat) (ending : Ending) (block : BlockText)
    (place : Place) : List Char → Option ReadScalar
  | [] => some ⟨block.finish ending, [], place, true⟩
  | c :: cs =>
      if place.column ≠ indent then some ⟨block.finish ending, c :: cs, place, true⟩
      else
        let line := (c :: cs).takeWhile fun c => !isBreak c
        let chars := line.reverse ++ block.joined folds (isBlank c)
        let place := place.after line
        match (c :: cs).drop line.length with
        | [] => some ⟨chars, [], place, true⟩
        | b :: behind =>
            match readEmptyLines? (some indent) [] 0 (place.next b) behind with
            | none => none
            | some lines =>
                if _shorter : lines.rest.length < (c :: cs).length then
                  readLines? folds indent ending ⟨chars, [b], lines.breaks, isBlank c⟩ lines.place
                    lines.rest
                else none
termination_by cs => cs.length
decreasing_by exact _shorter

/-- Reads a block behind its mark. Without a sign its indentation is that of its
first line, and always more than that of the collection around it. -/
def readBlock? (folds : Bool) (least : Nat) (place : Place) (cs : List Char) :
    Option ReadScalar := do
  let (ending, sign, behindSigns) ← blockSigns? cs
  let lineBreak ← lineEnd? behindSigns
  let place := place.after (cs.take (cs.length - lineBreak.length))
  let (place, first) :=
    match lineBreak with
    | [] => (place, [])
    | b :: behind => (place.next b, behind)
  let given := sign.map fun n => if least = 0 then n else least - 1 + n
  let lines ← readEmptyLines? given [] 0 place first
  let indent := given.getD (max (max lines.deepest least) 1)
  readLines? folds indent ending ⟨[], [], lines.breaks, false⟩ lines.place lines.rest

end SheetCompiler.Yaml

import SheetCompiler.Document.Yaml.Folding

/-!
# YAML tokens

Cutting a text into tokens. Indentation shows in the tokens: one begins a block
collection, another one ends it. A scalar, an alias or a collection in brackets may
turn out to be a key when a colon follows on its line. Then the tokens of a key, and
where it begins a block those of a mapping, are put in front of it.
-/

set_option autoImplicit false

namespace SheetCompiler.Yaml

inductive Token where
  | directive
  | documentStart
  | documentEnd
  | blockSequence
  | blockMapping
  | blockEnd
  | flowSequence
  | flowSequenceEnd
  | flowMapping
  | flowMappingEnd
  | blockEntry
  | flowEntry
  | key
  | value
  | alias (name : List Char)
  | anchor (name : List Char)
  | tag
  | plain (text : List Char)
  | quoted (text : List Char)
  deriving DecidableEq, Repr

/-- Where a key may begin: the number of tokens before it, and whether nothing else
may stand there. -/
structure KeyStart where
  isRequired : Bool
  number : Nat
  place : Place
  deriving DecidableEq, Repr

/-- A text that is being cut. The tokens are held in reverse, and so are the columns of
the block collections and the places where keys may begin, of which there is one for
every open bracket and one outside of them. -/
structure Lexer where
  rest : List Char
  place : Place
  tokens : List Token
  columns : List Nat
  keys : List (Option KeyStart)
  mayBeKey : Bool
  deriving DecidableEq, Repr

namespace Lexer

def ofChars (cs : List Char) : Lexer := ⟨cs, .start, [], [], [none], true⟩

/-- Whether the place is inside brackets. -/
def inFlow (lexer : Lexer) : Bool := 1 < lexer.keys.length

/-- The least column of what belongs to the innermost block collection. -/
def leastColumn (lexer : Lexer) : Nat := (lexer.columns.head?.map (· + 1)).getD 0

/-- Whether a column is deeper than every block collection. -/
def isDeeper (lexer : Lexer) (column : Nat) : Bool := lexer.leastColumn ≤ column

def emit (lexer : Lexer) (token : Token) : Lexer :=
  { lexer with tokens := token :: lexer.tokens }

/-- Goes on behind a number of characters of the line. -/
def skip (lexer : Lexer) (count : Nat) : Lexer :=
  { lexer with
    rest := lexer.rest.drop count
    place := lexer.place.after (lexer.rest.take count) }

/-! ## Blanks and comments -/

/-- Drops blanks, line breaks and comments. Outside of brackets a key may begin on
every new line, and no tab may stand where one may begin. -/
def dropGaps (inFlow mayBeKey inComment : Bool) (place : Place) :
    List Char → List Char × Place × Bool
  | [] => ([], place, mayBeKey)
  | c :: cs =>
      if isBreak c then dropGaps inFlow (mayBeKey || !inFlow) false (place.next c) cs
      else if inComment || c == ' ' || (c == '\t' && (inFlow || !mayBeKey)) then
        dropGaps inFlow mayBeKey inComment (place.next c) cs
      else if c == '#' then dropGaps inFlow mayBeKey true (place.next c) cs
      else (c :: cs, place, mayBeKey)

def toToken (lexer : Lexer) : Lexer :=
  let (rest, place, mayBeKey) :=
    dropGaps lexer.inFlow lexer.mayBeKey false lexer.place lexer.rest
  { lexer with rest, place, mayBeKey }

/-! ## Keys -/

/-- A key ends on the line where it begins, and soon. -/
def isStale (place : Place) (start : KeyStart) : Bool :=
  start.place.line < place.line || start.place.offset + 1024 < place.offset

/-- Gives up the keys that cannot end here any more. -/
def dropStaleKeys? (lexer : Lexer) : Option Lexer := do
  let keys ← lexer.keys.mapM fun key =>
    match key with
    | none => some none
    | some start =>
        if isStale lexer.place start then if start.isRequired then none else some none
        else some (some start)
  return { lexer with keys }

/-- Gives up the last key. -/
def dropKey? (lexer : Lexer) : Option Lexer :=
  match lexer.keys with
  | [] => none
  | key :: keys =>
      if (key.map KeyStart.isRequired).getD false then none
      else some { lexer with keys := none :: keys }

/-- Notes that a key may begin here. -/
def noteKey? (lexer : Lexer) : Option Lexer :=
  if lexer.mayBeKey then do
    let isRequired := !lexer.inFlow && lexer.columns.head? == some lexer.place.column
    let lexer ← lexer.dropKey?
    return { lexer with
      keys := some ⟨isRequired, lexer.tokens.length, lexer.place⟩ :: lexer.keys.drop 1 }
  else some lexer

/-- Puts tokens, in reverse, behind a number of others. -/
def putAt (lexer : Lexer) (number : Nat) (tokens : List Token) : Lexer :=
  let newer := lexer.tokens.length - number
  { lexer with tokens := lexer.tokens.take newer ++ tokens ++ lexer.tokens.drop newer }

/-! ## Blocks -/

/-- Ends the block collections that are deeper than a column, or all of them. -/
def endBlocks (lexer : Lexer) (column : Option Nat) : Lexer :=
  if lexer.inFlow then lexer
  else
    let isEnded (start : Nat) : Bool := (column.map fun column => decide (column < start)).getD true
    let ended := lexer.columns.takeWhile isEnded
    { lexer with
      columns := lexer.columns.drop ended.length
      tokens := List.replicate ended.length .blockEnd ++ lexer.tokens }

/-- Begins a block collection here, if the place is deeper than those around it. -/
def beginBlock (lexer : Lexer) (token : Token) : Lexer :=
  if !lexer.inFlow && lexer.isDeeper lexer.place.column then
    { lexer.emit token with columns := lexer.place.column :: lexer.columns }
  else lexer

/-! ## Tokens -/

/-- A token of one sign. -/
def sign (lexer : Lexer) (token : Token) (mayBeKey : Bool) (count : Nat := 1) : Lexer :=
  { (lexer.emit token).skip count with mayBeKey }

/-- The beginning or end of a document, or a directive. -/
def boundary? (lexer : Lexer) (token : Token) (count : Nat) : Option Lexer := do
  let lexer ← (lexer.endBlocks none).dropKey?
  return lexer.sign token false count

/-- The directive of a supported version. -/
def isVersion (cs : List Char) : Bool :=
  let body := (Text.stripFront? "YAML".toList cs).map fun cs => cs.dropWhile isBlank
  match body with
  | some ('1' :: '.' :: minor :: rest) =>
      (minor == '1' || minor == '2') && endsWord rest && (lineEnd? rest).isSome
  | _ => false

/-- The end of a line behind a directive. -/
def directive? (lexer : Lexer) : Option Lexer :=
  let line := lexer.rest.takeWhile fun c => !isBreak c
  if isVersion (line.drop 1) then lexer.boundary? .directive line.length else none

def openBracket? (lexer : Lexer) (token : Token) : Option Lexer := do
  let lexer ← lexer.noteKey?
  return { lexer.sign token true with keys := none :: lexer.keys }

def closeBracket? (lexer : Lexer) (token : Token) : Option Lexer := do
  let lexer ← lexer.dropKey?
  let keys := if lexer.inFlow then lexer.keys.drop 1 else lexer.keys
  return { lexer.sign token false with keys }

/-- The mark of an entry or of a key. It may begin a block where a key may begin. -/
def mark? (lexer : Lexer) (block token : Token) (mayBeKey : Bool) : Option Lexer :=
  if !lexer.inFlow && !lexer.mayBeKey then none
  else do
    let lexer ← (lexer.beginBlock block).dropKey?
    return lexer.sign token mayBeKey

/-- The colon between a key and its value. -/
def colon? (lexer : Lexer) : Option Lexer :=
  match lexer.keys with
  | some start :: keys =>
      let isFirst := !lexer.inFlow && lexer.isDeeper start.place.column
      let front := if isFirst then [.key, .blockMapping] else [.key]
      let columns := if isFirst then start.place.column :: lexer.columns else lexer.columns
      some ({ lexer.putAt start.number front with columns, keys := none :: keys }.sign .value false)
  | _ =>
      if !lexer.inFlow && !lexer.mayBeKey then none
      else some ((lexer.beginBlock .blockMapping).sign .value !lexer.inFlow)

/-- A character of the name of an anchor. -/
def isNameChar (c : Char) : Bool := c.isAlphanum || c == '_' || c == '-'

/-- What may follow the name of an anchor. -/
def endsName : List Char → Bool
  | [] => true
  | c :: _ => isGap c || ['?', ':', ',', ']', '\x7d', '%', '@', '\x60'].contains c

/-- An anchor or an alias with its name. -/
def named? (lexer : Lexer) (token : List Char → Token) : Option Lexer := do
  let lexer ← lexer.noteKey?
  let name := (lexer.rest.drop 1).takeWhile isNameChar
  if name.isEmpty || !endsName (lexer.rest.drop (1 + name.length)) then none
  else return lexer.sign (token name) false (1 + name.length)

/-- A character of a tag. -/
def isTagChar (c : Char) : Bool := isNameChar c || ";/?:@&=+$.!~*'()%".toList.contains c

/-- The length of a tag behind its first sign. -/
def tagLength? (cs : List Char) : Option Nat :=
  match cs with
  | '<' :: uri =>
      let body := uri.takeWhile fun c => isTagChar c || c == ',' || c == '[' || c == ']'
      if body.isEmpty || (uri.drop body.length).head? != some '>' then none
      else some (body.length + 2)
  | '!' :: suffix =>
      let body := suffix.takeWhile isTagChar
      if body.isEmpty then none else some (body.length + 1)
  | _ =>
      let body := cs.takeWhile isTagChar
      if body.contains '!' then none else some body.length

/-- A tag. What it says does not matter here. -/
def tag? (lexer : Lexer) : Option Lexer := do
  let lexer ← lexer.noteKey?
  let length ← tagLength? (lexer.rest.drop 1)
  let behind := lexer.rest.drop (1 + length)
  if endsWord behind || (lexer.inFlow && behind.head? == some ',') then
    return lexer.sign .tag false (1 + length)
  else none

/-- Goes on behind a scalar. -/
def withScalar (lexer : Lexer) (token : List Char → Token) (scalar : ReadScalar) : Lexer :=
  { lexer.emit (token scalar.chars.reverse) with
    rest := scalar.rest
    place := scalar.place
    mayBeKey := scalar.broken }

def plain? (lexer : Lexer) : Option Lexer := do
  let lexer ← lexer.noteKey?
  let scalar ← readPlain? lexer.inFlow lexer.leastColumn [] .none lexer.place lexer.rest
  return lexer.withScalar .plain scalar

def quoted? (lexer : Lexer) (quote : Char) : Option Lexer := do
  let lexer := (← lexer.noteKey?).skip 1
  let scalar ← readQuoted? quote .text [] .none lexer.place lexer.rest
  return lexer.withScalar .quoted scalar

def block? (lexer : Lexer) (folds : Bool) : Option Lexer := do
  let lexer := (← lexer.dropKey?).skip 1
  let scalar ← readBlock? folds lexer.leastColumn lexer.place lexer.rest
  return lexer.withScalar .quoted scalar

/-- A sign that does not begin a scalar without quotes by itself. -/
def isIndicator (c : Char) : Bool := "-?:,[]\x7b\x7d#&*!|>'\"%@\x60".toList.contains c

/-- Whether a scalar without quotes begins here. -/
def beginsPlain (lexer : Lexer) (c : Char) (cs : List Char) : Bool :=
  !(isGap c || isIndicator c) || (c == '-' && !((cs.head?.map isBlank).getD false)) ||
    (!lexer.inFlow && (c == '?' || c == ':') && !endsWord cs)

/-- Reads the token that begins with a character. -/
def token? (lexer : Lexer) (c : Char) (cs : List Char) : Option Lexer :=
  let atLineStart := lexer.place.column == 0
  if atLineStart && c == '%' then lexer.directive?
  else if atLineStart && isMarker '-' (c :: cs) then lexer.boundary? .documentStart 3
  else if atLineStart && isMarker '.' (c :: cs) then lexer.boundary? .documentEnd 3
  else
    match c with
    | '[' => lexer.openBracket? .flowSequence
    | '\x7b' => lexer.openBracket? .flowMapping
    | ']' => lexer.closeBracket? .flowSequenceEnd
    | '\x7d' => lexer.closeBracket? .flowMappingEnd
    | ',' => lexer.dropKey?.map fun lexer => lexer.sign .flowEntry true
    | '*' => lexer.named? .alias
    | '&' => lexer.named? .anchor
    | '!' => lexer.tag?
    | '\'' => lexer.quoted? '\''
    | '"' => lexer.quoted? '"'
    | _ =>
        if c == '-' && endsWord cs then lexer.mark? .blockSequence .blockEntry true
        else if c == '?' && (lexer.inFlow || endsWord cs) then
          lexer.mark? .blockMapping .key !lexer.inFlow
        else if c == ':' && (lexer.inFlow || endsWord cs) then lexer.colon?
        else if c == '|' && !lexer.inFlow then lexer.block? false
        else if c == '>' && !lexer.inFlow then lexer.block? true
        else if lexer.beginsPlain c cs then lexer.plain?
        else none

/-- The tokens of the whole text. -/
def finish? (lexer : Lexer) : Option (List Token) := do
  let lexer := lexer.endBlocks none
  let lexer ← lexer.dropKey?
  return lexer.tokens.reverse

/-- Cuts the rest of a text. Every token takes a character at least. -/
def run? (lexer : Lexer) : Option (List Token) :=
  match lexer.toToken.dropStaleKeys? with
  | none => none
  | some ready =>
      match ready.rest with
      | [] => ready.finish?
      | c :: cs =>
          match (ready.endBlocks (some ready.place.column)).token? c cs with
          | none => none
          | some next =>
              if _shorter : next.rest.length < lexer.rest.length then next.run? else none
termination_by lexer.rest.length

end Lexer

/-- The tokens of a text. A byte order mark in front of it does not count. -/
def tokens? (cs : List Char) : Option (List Token) :=
  if cs.all isAllowed then
    let lines := withLineFeeds cs
    (Lexer.ofChars ((Text.stripFront? ['\uFEFF'] lines).getD lines)).run?
  else none

end SheetCompiler.Yaml

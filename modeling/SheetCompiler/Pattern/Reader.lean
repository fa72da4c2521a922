import SheetCompiler.Pattern
import SheetCompiler.Pattern.NamedClass

/-!
# Reading patterns

The notation of patterns. A pattern that has no reading is not valid: there are
no back references and no conditions on what lies ahead or behind.

Flags in parentheses change how the rest of their group is read. With the flag
`x`, blanks and comments between the parts of a pattern do not count.
-/

set_option autoImplicit false

namespace SheetCompiler.Pattern

structure Flags where
  anyCase : Bool
  multiLine : Bool
  dotAll : Bool
  anyBreak : Bool
  unicode : Bool
  spaced : Bool
  deriving DecidableEq, Repr

namespace Flags

def standard : Flags := ⟨false, false, false, false, true, false⟩

/-- Sets a flag by its letter. The letter `U` only changes which of several
matches is preferred. -/
def set? (flags : Flags) (letter : Char) (value : Bool) : Option Flags :=
  match letter with
  | 'i' => some { flags with anyCase := value }
  | 'm' => some { flags with multiLine := value }
  | 's' => some { flags with dotAll := value }
  | 'R' => some { flags with anyBreak := value }
  | 'u' => some { flags with unicode := value }
  | 'x' => some { flags with spaced := value }
  | 'U' => some flags
  | _ => none

def wordSet (flags : Flags) : WordSet := if flags.unicode then .unicode else .ascii

end Flags

/-! ## Blanks and comments -/

/-- Drops blanks and comments. A comment runs to the end of its line. -/
def dropSpace (inComment : Bool) : List Char → List Char
  | [] => []
  | c :: cs =>
      if inComment then dropSpace (c != '\n') cs
      else if Text.isBlank c then dropSpace false cs
      else if c = '#' then dropSpace true cs
      else c :: cs

theorem length_dropSpace_le (inComment : Bool) (cs : List Char) :
    (dropSpace inComment cs).length ≤ cs.length := by
  induction cs generalizing inComment with
  | nil => simp [dropSpace]
  | cons c cs ih =>
      simp only [dropSpace]
      split
      · exact Nat.le_succ_of_le (ih _)
      · split
        · exact Nat.le_succ_of_le (ih _)
        · split
          · exact Nat.le_succ_of_le (ih _)
          · exact Nat.le_refl _

namespace Flags

/-- Drops what does not count in front of the next part. -/
def skip (flags : Flags) (cs : List Char) : List Char :=
  if flags.spaced then dropSpace false cs else cs

theorem length_skip_le (flags : Flags) (cs : List Char) : (flags.skip cs).length ≤ cs.length := by
  unfold skip
  split
  · exact length_dropSpace_le false cs
  · exact Nat.le_refl _

/-- The characters in front that satisfy `p`, and the rest. -/
def span (flags : Flags) (p : Char → Bool) : List Char → List Char × List Char
  | [] => ([], [])
  | c :: cs =>
      if p c then
        let (taken, rest) := flags.span p (flags.skip cs)
        (c :: taken, rest)
      else ([], c :: cs)
termination_by cs => cs.length
decreasing_by exact Nat.lt_succ_of_le (flags.length_skip_le cs)

end Flags

/-! ## Numbers -/

/-- A decimal number of 32 bits with blanks around it. -/
def readCount? (flags : Flags) (cs : List Char) : Option (Nat × List Char) :=
  let (digits, rest) := flags.span Char.isDigit (cs.dropWhile Text.isBlank)
  let n := digits.foldl (fun acc c => 10 * acc + (c.toNat - '0'.toNat)) 0
  if digits.isEmpty ∨ 0x100000000 ≤ n then none
  else some (n, flags.skip (rest.dropWhile Text.isBlank))

def isHexDigit (c : Char) : Bool :=
  c.isDigit || ('a' ≤ c && c ≤ 'f') || ('A' ≤ c && c ≤ 'F')

/-- The character of a code point. -/
def charOfCode? (n : Nat) : Option Char := if n.isValidChar then some (Char.ofNat n) else none

def charOfHex? (digits : List Char) : Option Char :=
  charOfCode? (Text.hexNumber (Text.lower digits))

/-- Exactly `n` characters, the blanks and comments between them dropped. -/
def takeSpaced? (flags : Flags) : Nat → List Char → Option (List Char × List Char)
  | 0, cs => some ([], cs)
  | _ + 1, [] => none
  | n + 1, c :: cs => do
      let (taken, rest) ← takeSpaced? flags n (flags.skip cs)
      return (c :: taken, rest)

/-! ## Escapes -/

/-- What an escape stands for. A literal may be written as a single byte. -/
inductive Escape where
  | literal (c : Char) (isByte : Bool)
  | cls (set : CharClass)
  | look (assertion : Assertion)
  deriving DecidableEq, Repr

/-- A code point after `x`, `u` or `U`: in braces, or with a fixed number of
digits. -/
def readHex? (flags : Flags) (kind : Char) (cs : List Char) : Option (Escape × List Char) :=
  match flags.skip cs with
  | '{' :: cs => do
      let (digits, rest) := flags.span (· != '}') (flags.skip cs)
      if rest.isEmpty ∨ digits.isEmpty ∨ !digits.all isHexDigit then none
      else
        let c ← charOfHex? digits
        return (.literal c false, flags.skip rest.tail)
  | cs => do
      let width := if kind = 'x' then 2 else if kind = 'u' then 4 else 8
      let (digits, rest) ← takeSpaced? flags width cs
      if !digits.all isHexDigit then none
      else
        let c ← charOfHex? digits
        return (.literal c (kind == 'x'), rest)

/-- The class of a property with the flags of the place where it stands. -/
def foldedClass (flags : Flags) (cls : CharClass) : CharClass :=
  if !flags.anyCase then cls else if flags.unicode then .anyCase cls else .anyAsciiCase cls

/-- The class in the braces after `p`: a name, or a name and its value. -/
def namedClassOfText? (cs : List Char) : Option (Bool × CharClass) :=
  let name (cs : List Char) : String := Property.looseName cs
  let unequal? := (List.range cs.length).find? fun index => (cs.drop index).take 2 == ['!', '=']
  match unequal? with
  | some index =>
      (CharClass.ofNamedValue? (name (cs.take index)) (name (cs.drop (index + 2)))).map (true, ·)
  | none =>
      match (Text.cut? (· == ':') cs).orElse fun _ => Text.cut? (· == '=') cs with
      | some (before, after) =>
          (CharClass.ofNamedValue? (name before) (name after)).map (false, ·)
      | none => (CharClass.ofName? (name cs)).map (false, ·)

/-- A Unicode property after `p` or `P`: one letter, or a text in braces. -/
def readProperty? (flags : Flags) (negated : Bool) (cs : List Char) :
    Option (Escape × List Char) := do
  let (text, rest) ←
    match flags.skip cs with
    | [] => none
    | '{' :: cs =>
        let (text, rest) := flags.span (· != '}') (flags.skip cs)
        if rest.isEmpty then none else some (text, rest.tail)
    | '\\' :: _ => none
    | c :: cs => some ([c], flags.skip cs)
  let (unequal, cls) ← namedClassOfText? text
  if !flags.unicode then none
  else return (.cls (.negateIf (negated != unequal) (foldedClass flags cls)), rest)

/-- The classes of digits, blanks and word characters by their letters; upper case
letters stand for the complements, which only Unicode patterns have. -/
def letterClass? (flags : Flags) (letter : Char) : Option CharClass :=
  let either (name : String) (property : Property) : Option CharClass :=
    if flags.unicode then some (.property property) else CharClass.ofAsciiName? name
  let cls :=
    match letter.toLower with
    | 'd' => either "digit" (.category [.decimalNumber])
    | 's' => either "space" .blank
    | _ => either "word" .word
  if letter.isLower then cls else if flags.unicode then cls.map .complement else none

/-- What is left of an escape for a word edge: its kind may follow in braces. -/
def readEdge? (flags : Flags) (cs : List Char) : Option (Escape × List Char) :=
  let plain : Escape × List Char := (.look (.wordEdge flags.wordSet), cs)
  let isName (c : Char) : Bool := c.isAlpha || c == '-'
  match cs with
  | '{' :: inner =>
      match flags.skip inner with
      | [] => none
      | c :: inner =>
          if !isName c then some plain
          else
            let (name, rest) := flags.span isName (c :: inner)
            match rest with
            | '}' :: rest =>
                let look (assertion : Assertion) : Option (Escape × List Char) :=
                  some (.look assertion, rest)
                match String.ofList name with
                | "start" => look (.wordStart flags.wordSet)
                | "end" => look (.wordEnd flags.wordSet)
                | "start-half" => look (.noWordBefore flags.wordSet)
                | "end-half" => look (.noWordAfter flags.wordSet)
                | _ => none
            | _ => none
  | _ => some plain

/-- The characters that may be escaped to stand for themselves. -/
def isEscapable (c : Char) : Bool :=
  Text.Letter.isAscii c && !c.isAlphanum && c != '<' && c != '>'

/-- Reads an escape behind its backslash. -/
def readEscape? (flags : Flags) : List Char → Option (Escape × List Char)
  | [] => none
  | c :: cs =>
      let literal (value : Char) : Option (Escape × List Char) := some (.literal value false, cs)
      let look (assertion : Assertion) : Option (Escape × List Char) :=
        some (.look assertion, cs)
      match c with
      | 'x' | 'u' | 'U' => readHex? flags c cs
      | 'p' => readProperty? flags false cs
      | 'P' => readProperty? flags true cs
      | 'd' | 's' | 'w' | 'D' | 'S' | 'W' => (letterClass? flags c).map fun cls => (.cls cls, cs)
      | 'a' => literal '\x07'
      | 'f' => literal '\x0c'
      | 't' => literal '\t'
      | 'n' => literal '\n'
      | 'r' => literal '\r'
      | 'v' => literal '\x0b'
      | 'A' => look .textStart
      | 'z' => look .textEnd
      | 'b' => readEdge? flags cs
      | 'B' => look (.noWordEdge flags.wordSet)
      | '<' => look (.wordStart flags.wordSet)
      | '>' => look (.wordEnd flags.wordSet)
      | _ => if isEscapable c then literal c else none

/-- The class of a literal outside brackets. A byte that is no character has
none. -/
def literalClass? (flags : Flags) (c : Char) (isByte : Bool) : Option CharClass :=
  if !flags.unicode && isByte && !Text.Letter.isAscii c then none
  else some (foldedClass flags (.one c))

/-! ## Bracketed classes -/

/-- Operators between the operands of a bracketed class. -/
inductive SetOperator where
  | intersection
  | difference
  | symmetricDifference
  deriving DecidableEq, Repr

def SetOperator.apply : SetOperator → CharClass → CharClass → CharClass
  | intersection => .inter
  | difference => .difference
  | symmetricDifference => .symmetricDifference

/-- A bracket that is not closed yet: what the class around it holds so far,
whether it is negated, and the operator that waits for its right operand. -/
structure Bracket where
  outer : CharClass
  negated : Bool
  pending : Option (SetOperator × CharClass)
  deriving DecidableEq, Repr

namespace Bracket

/-- The value of a bracket with its last operand. -/
def value (flags : Flags) (bracket : Bracket) (operand : CharClass) : CharClass :=
  match bracket.pending with
  | some (operator, left) =>
      operator.apply (foldedClass flags left) (foldedClass flags operand)
  | none => operand

/-- The class of a bracket that closes after its last operand. Only Unicode
classes may be negated. -/
def close? (flags : Flags) (bracket : Bracket) (operand : CharClass) : Option CharClass :=
  if bracket.negated && !flags.unicode then none
  else some (.negateIf bracket.negated (foldedClass flags (bracket.value flags operand)))

end Bracket

/-- A named class of ASCII characters behind its opening bracket. -/
def readAsciiClass? (cs : List Char) : Option (Bool × CharClass × List Char) :=
  match cs with
  | ':' :: cs =>
      let (negated, cs) :=
        match cs with
        | '^' :: cs => (true, cs)
        | cs => (false, cs)
      match cs.dropWhile (· != ':') with
      | ':' :: ']' :: rest =>
          (CharClass.ofAsciiName? (String.ofList (cs.takeWhile (· != ':')))).map (negated, ·, rest)
      | _ => none
  | _ => none

/-- What stands at the start of a bracket: the negation, and the hyphens or the
closing bracket that count as literals there. -/
def openBracket (flags : Flags) (cs : List Char) : Bool × CharClass × List Char :=
  let cs := flags.skip cs
  let (negated, cs) :=
    match cs with
    | '^' :: cs => (true, flags.skip cs)
    | cs => (false, cs)
  let (hyphens, cs) := flags.span (· == '-') cs
  if hyphens.isEmpty then
    match cs with
    | ']' :: cs => (negated, .one ']', flags.skip cs)
    | cs => (negated, .never, cs)
  else (negated, .one '-', cs)

/-- A member of a class: an escape or a character. -/
def readMember? (flags : Flags) : List Char → Option (Escape × List Char)
  | [] => none
  | '\\' :: cs => readEscape? flags cs
  | c :: cs => some (.literal c false, cs)

/-- The literal that a member of a class is. Without Unicode it is an ASCII
character. -/
def Escape.literal? (flags : Flags) : Escape → Option Char
  | .literal c _ => if flags.unicode || Text.Letter.isAscii c then some c else none
  | _ => none

def Escape.memberClass? (flags : Flags) : Escape → Option CharClass
  | .cls set => some set
  | .look _ => none
  | escape => (escape.literal? flags).map .one

/-- A member of a class, or a range between two literals. -/
def readRange? (flags : Flags) (cs : List Char) : Option (CharClass × List Char) := do
  let (first, rest) ← readMember? flags cs
  let single := (first.memberClass? flags).map fun cls => (cls, flags.skip rest)
  match flags.skip rest with
  | [] => none
  | '-' :: after =>
      match flags.skip after with
      | [] => none
      | c :: next =>
          if c = ']' ∨ c = '-' then single
          else
            let (last, rest) ← readMember? flags (c :: next)
            let first ← first.literal? flags
            let last ← last.literal? flags
            if first ≤ last then return (.range first last, rest) else none
  | _ => single

/-- Reads a bracketed class from inside its innermost open bracket. Each turn takes
a character, so the length of the text bounds their number. -/
def readBrackets? (flags : Flags) :
    (fuel : Nat) → (around : List Bracket) → Bracket → (operand : CharClass) → List Char →
      Option (CharClass × List Char)
  | 0, _, _, _, _ => none
  | fuel + 1, around, bracket, operand, cs =>
      let operator (kind : SetOperator) (rest : List Char) : Option (CharClass × List Char) :=
        let left := bracket.value flags operand
        readBrackets? flags fuel around { bracket with pending := some (kind, left) } .never rest
      match flags.skip cs with
      | [] => none
      | '[' :: rest =>
          match readAsciiClass? rest with
          | some (negated, cls, rest) =>
              if negated && !flags.unicode then none
              else
                let cls := CharClass.negateIf negated (foldedClass flags cls)
                readBrackets? flags fuel around bracket (.union operand cls) rest
          | none =>
              let (negated, start, rest) := openBracket flags rest
              readBrackets? flags fuel (bracket :: around) ⟨operand, negated, none⟩ start rest
      | ']' :: rest => do
          let cls ← bracket.close? flags operand
          match around with
          | [] => return (cls, rest)
          | parent :: around =>
              readBrackets? flags fuel around parent (.union bracket.outer cls) rest
      | '&' :: '&' :: rest => operator .intersection rest
      | '-' :: '-' :: rest => operator .difference rest
      | '~' :: '~' :: rest => operator .symmetricDifference rest
      | cs => do
          let (cls, rest) ← readRange? flags cs
          readBrackets? flags fuel around bracket (.union operand cls) rest

/-- Reads a bracketed class behind its opening bracket. -/
def readClass? (flags : Flags) (cs : List Char) : Option (CharClass × List Char) :=
  let (negated, start, rest) := openBracket flags cs
  readBrackets? flags (cs.length + 1) [] ⟨.never, negated, none⟩ start rest

/-! ## Groups -/

/-- What the opening of a group says. -/
inductive Opening where
  | group (name : Option (List Char)) (flags : Flags)
  | flags (flags : Flags)
  deriving DecidableEq, Repr

/-- Reads flags up to a colon or a closing parenthesis; tells the one that ends
them, and whether there were any. -/
def readFlags? (flags : Flags) (seen : List Char) (negating afterHyphen : Bool) :
    List Char → Option (Flags × Char × Bool × List Char)
  | [] => none
  | c :: cs =>
      if c = ':' ∨ c = ')' then
        if afterHyphen then none else some (flags, c, !seen.isEmpty, cs)
      else if c = '-' then
        if negating then none else readFlags? flags seen true true cs
      else if seen.contains c then none
      else
        match flags.set? c (!negating) with
        | some flags => readFlags? flags (c :: seen) negating false cs
        | none => none

def isNameStart (c : Char) : Bool := c == '_' || Text.Letter.isAlphabetic c

def isNamePart (c : Char) : Bool :=
  c == '_' || c == '.' || c == '[' || c == ']' || Text.Letter.isAlphanumeric c

/-- Reads the name of a group up to its closing angle bracket. -/
def readGroupName? (cs : List Char) : Option (List Char × List Char) :=
  let name := cs.takeWhile (· != '>')
  match name, cs.dropWhile (· != '>') with
  | first :: others, _ :: rest =>
      if isNameStart first && others.all isNamePart then some (name, rest) else none
  | _, _ => none

/-- Reads the opening of a group behind its parenthesis. -/
def readOpening? (flags : Flags) (cs : List Char) : Option (Opening × List Char) :=
  let named (cs : List Char) : Option (Opening × List Char) :=
    (readGroupName? cs).map fun (name, rest) => (.group (some name) flags, rest)
  match flags.skip cs with
  | '?' :: '=' :: _ | '?' :: '!' :: _ | '?' :: '<' :: '=' :: _ | '?' :: '<' :: '!' :: _ => none
  | '?' :: 'P' :: '<' :: cs => named cs
  | '?' :: '<' :: cs => named cs
  | '?' :: cs => do
      let (flags, stop, any, rest) ← readFlags? flags [] false false cs
      if stop = ':' then return (.group none flags, rest)
      else if any then return (.flags flags, rest)
      else none
  | cs => some (.group none flags, cs)

/-! ## Patterns -/

/-- A part of a pattern with its depth of nesting. -/
structure Part where
  pattern : Pattern
  depth : Nat
  deriving DecidableEq, Repr

namespace Part

/-- Parts one after the other. -/
def sequence : List Part → Part
  | [] => ⟨.empty, 0⟩
  | [part] => part
  | part :: parts =>
      ⟨(parts.foldl (fun front part => .seq front part.pattern) part.pattern),
        ((part :: parts).map Part.depth).foldl max 0 + 1⟩

/-- One of several parts. -/
def choice : List Part → Part
  | [] => ⟨.empty, 0⟩
  | [part] => part
  | part :: parts =>
      ⟨(parts.foldl (fun front part => .either front part.pattern) part.pattern),
        ((part :: parts).map Part.depth).foldl max 0 + 1⟩

def nested (part : Part) : Part := { part with depth := part.depth + 1 }

end Part

/-- A group that is not closed yet: its finished branches and the parts of the
current one, both latest first, and the flags of the text around it. A part is
missing where flags stand. -/
structure OpenGroup where
  branches : List Part
  parts : List (Option Part)
  outerFlags : Flags
  deriving DecidableEq, Repr

namespace OpenGroup

def add (group : OpenGroup) (part : Option Part) : OpenGroup :=
  { group with parts := part :: group.parts }

def currentBranch (group : OpenGroup) : Part := .sequence (group.parts.reverse.filterMap id)

/-- Begins a further branch. -/
def branch (group : OpenGroup) : OpenGroup :=
  { group with branches := group.currentBranch :: group.branches, parts := [] }

def content (group : OpenGroup) : Part :=
  .choice (group.currentBranch :: group.branches).reverse

/-- Repeats the last part. -/
def repeat? (group : OpenGroup) (least : Nat) (most : Option Nat) : Option OpenGroup :=
  match group.parts with
  | some part :: parts =>
      some { group with
        parts := some ⟨.repeated part.pattern least most, part.depth + 1⟩ :: parts }
  | _ => none

end OpenGroup

/-- Drops the mark of a reluctant repetition. -/
def dropReluctance (cs : List Char) : List Char :=
  match cs with
  | '?' :: cs => cs
  | cs => cs

/-- Reads the counts of a repetition behind the opening brace. -/
def readCounts? (flags : Flags) (cs : List Char) : Option ((Nat × Option Nat) × List Char) := do
  let (least, rest) ← readCount? flags (flags.skip cs)
  let (most, rest) ←
    match rest with
    | ',' :: rest =>
        match flags.skip rest with
        | '}' :: rest => some (none, '}' :: rest)
        | rest => (readCount? flags rest).map fun (most, rest) => (some most, rest)
    | rest => some (some least, rest)
  match rest with
  | '}' :: rest =>
      if (most.map fun most => decide (most < least)).getD false then none
      else return ((least, most), dropReluctance (flags.skip rest))
  | _ => none

/-- What a character or an escape matches on its own. -/
def partOfEscape? (flags : Flags) : Escape → Option Part
  | .literal c isByte => (literalClass? flags c isByte).map fun cls => ⟨.one cls, 0⟩
  | .cls set => some ⟨.one set, 0⟩
  | .look assertion => some ⟨.look assertion, 0⟩

def lineStart (flags : Flags) : Assertion :=
  if !flags.multiLine then .textStart else if flags.anyBreak then .lineStartAnyBreak else .lineStart

def lineEnd (flags : Flags) : Assertion :=
  if !flags.multiLine then .textEnd else if flags.anyBreak then .lineEndAnyBreak else .lineEnd

/-- The class of the dot; it may match every character only in Unicode patterns. -/
def dotClass? (flags : Flags) : Option CharClass :=
  if !flags.unicode then none
  else if flags.dotAll then some (.property .anything)
  else if flags.anyBreak then some (.complement (.union (.one '\r') (.one '\n')))
  else some (.complement (.one '\n'))

/-- Reads a part that is neither a group nor a repetition. -/
def readPart? (flags : Flags) : List Char → Option (Part × List Char)
  | [] => none
  | '\\' :: cs => do
      let (escape, rest) ← readEscape? flags cs
      let part ← partOfEscape? flags escape
      return (part, rest)
  | '[' :: cs => (readClass? flags cs).map fun (cls, rest) => (⟨.one cls, 1⟩, rest)
  | '.' :: cs => (dotClass? flags).map fun cls => (⟨.one cls, 0⟩, cs)
  | '^' :: cs => some (⟨.look (lineStart flags), 0⟩, cs)
  | '$' :: cs => some (⟨.look (lineEnd flags), 0⟩, cs)
  | c :: cs => (literalClass? flags c false).map fun cls => (⟨.one cls, 0⟩, cs)

/-- Reads the rest of a pattern inside its open groups, innermost first. Each turn
takes a character, so the length of the text bounds their number. -/
def readGroups? : (fuel : Nat) → (around : List OpenGroup) → OpenGroup → Flags →
    (names : List (List Char)) → List Char → Option Part
  | 0, _, _, _, _, _ => none
  | fuel + 1, around, group, flags, names, cs =>
      match flags.skip cs with
      | [] => if around.isEmpty then some group.content else none
      | '(' :: rest => do
          let (opening, rest) ← readOpening? flags rest
          match opening with
          | .flags flags => readGroups? fuel around (group.add none) flags names rest
          | .group name inner =>
              if (name.map names.contains).getD false then none
              else
                readGroups? fuel (group :: around) ⟨[], [], flags⟩ inner (name.toList ++ names) rest
      | ')' :: rest =>
          match around with
          | [] => none
          | parent :: around =>
              readGroups? fuel around (parent.add (some group.content.nested)) group.outerFlags
                names rest
      | '|' :: rest => readGroups? fuel around group.branch flags names rest
      | '?' :: rest => do
          let group ← group.repeat? 0 (some 1)
          readGroups? fuel around group flags names (dropReluctance rest)
      | '*' :: rest => do
          let group ← group.repeat? 0 none
          readGroups? fuel around group flags names (dropReluctance rest)
      | '+' :: rest => do
          let group ← group.repeat? 1 none
          readGroups? fuel around group flags names (dropReluctance rest)
      | '{' :: rest => do
          let ((least, most), rest) ← readCounts? flags rest
          let group ← group.repeat? least most
          readGroups? fuel around group flags names rest
      | cs => do
          let (part, rest) ← readPart? flags cs
          readGroups? fuel around (group.add (some part)) flags names rest

/-- The greatest depth of nesting. -/
def maxDepth : Nat := 250

/-- The greatest room for a compiled pattern, in bytes. -/
def maxWeight : Nat := 0xA00000

/-- Why a text denotes no pattern. -/
inductive Fault where
  | malformed
  | tooLarge
  deriving DecidableEq, Repr

/-- The text of a fault. Where a malformed pattern goes wrong is not told. -/
def Fault.message : Fault → String
  | malformed => "regex parse error: not a pattern"
  | tooLarge => s!"Compiled regex exceeds size limit of {maxWeight} bytes."

/-- The pattern that a text denotes. -/
def ofText (text : String) : Except Fault Pattern :=
  let cs := text.toList
  match readGroups? (cs.length + 1) [] ⟨[], [], .standard⟩ .standard [] cs with
  | none => .error .malformed
  | some part =>
      if maxDepth < part.depth then .error .malformed
      else if maxWeight < part.pattern.weight then .error .tooLarge
      else .ok part.pattern

end SheetCompiler.Pattern

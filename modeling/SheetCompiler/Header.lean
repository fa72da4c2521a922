import SheetCompiler.Diagnostic
import SheetCompiler.Text.Basic

/-!
# Header cells

A header cell is a name followed by any number of tags, each opened by `@`.
Tags are matched without regard to the case of ASCII letters:

* `PM` excludes the column and wins over every other scope tag;
* `Client`, `Server` and `All` choose the scope, the last one counting;
* `Lan` and `Localization` mark the column for localization;
* `Ref`, `Reference`, `ref_<type>` and `Ref(<type>)` mark a reference.
-/

set_option autoImplicit false

namespace SheetCompiler

open Text

/-- The meaning of one tag. -/
inductive Tag where
  | exclude
  | scope (scope : Scope)
  | localized
  | reference (target : Option String)
  | unknown
  deriving DecidableEq, Repr

/-- A text that is not empty. -/
def nonEmpty? (cs : List Char) : Option String :=
  if cs.isEmpty then none else some (String.ofList cs)

/-- Splits `head(inner)` at the first parenthesis, both parts trimmed. The
closing parenthesis must end the text. -/
def splitParenthetical? (cs : List Char) : Option (List Char × List Char) := do
  let (head, rest) ← cut? (· == '(') (trim cs)
  let inner ← stripBack? [')'] rest
  return (trim head, trim inner)

namespace Tag

/-- The meaning of the characters of a trimmed tag. -/
def ofChars (tag : List Char) : Tag :=
  let lowered := String.ofList (lower tag)
  if lowered == "pm" then .exclude
  else if lowered == "client" then .scope .clientOnly
  else if lowered == "server" then .scope .serverOnly
  else if lowered == "all" then .scope .all
  else if lowered == "lan" || lowered == "localization" then .localized
  else if lowered == "ref" || lowered == "reference" then .reference none
  else
    match stripFrontAnyCase? "ref_".toList tag with
    | some target => .reference (nonEmpty? (trim target))
    | none =>
        match splitParenthetical? tag with
        | some (head, inner) =>
            let head := String.ofList (lower head)
            if head == "ref" || head == "reference" then .reference (nonEmpty? inner)
            else .unknown
        | none => .unknown

end Tag

/-- Letters, digits and the underscore of ASCII stay; any other character
becomes an underscore. -/
def nameChar (c : Char) : Char := if c.isAlphanum || c == '_' then c else '_'

/-- The field name of the characters of a header: each character is made safe
for an identifier, and a leading digit gets a letter in front. -/
def cleanName (cs : List Char) : String :=
  let cleaned := (trim cs).map nameChar
  match cleaned with
  | c :: _ => if c.isDigit then "Field_" ++ String.ofList cleaned else String.ofList cleaned
  | [] => ""

/-- The name endings that say that a column holds the id of another table. -/
def idSuffixes : List String := ["_id", "_ID", "Id", "ID"]

/-- The target named by a field `<target>Id`: the first matching ending and the
underscores before it are removed. -/
def targetOfName? (name : String) : Option String := do
  let stem ← idSuffixes.findSome? fun suffix => stripBack? suffix.toList name.toList
  nonEmpty? (dropEndWhile (· == '_') stem)

/-- The mark of a reference column. The target is absent when none can be
derived, and then a diagnostic says so. -/
structure ReferenceMark where
  target : Option String
  deriving DecidableEq, Repr

/-- A header cell in parts. -/
structure Header where
  raw : String
  name : String
  scope : Scope
  localized : Bool
  reference : Option ReferenceMark
  diagnostics : List Diagnostic
  deriving DecidableEq, Repr

namespace Header

def isEmpty (header : Header) : Bool := header.name.isEmpty

def referenceTarget (header : Header) : Option String :=
  header.reference.bind (·.target)

/-- What the tags of a header add up to, read from left to right. -/
structure Reading where
  excluded : Bool
  scopes : List Scope
  localized : Bool
  reference : Option ReferenceMark
  diagnostics : List Diagnostic
  deriving DecidableEq, Repr

namespace Reading

def empty : Reading := ⟨false, [], false, none, []⟩

/-- Adds one trimmed tag. A later explicit target replaces an earlier one. -/
def addTag (raw : String) (reading : Reading) (tag : List Char) : Reading :=
  match Tag.ofChars tag with
  | .exclude => { reading with excluded := true }
  | .scope scope => { reading with scopes := reading.scopes ++ [scope] }
  | .localized => { reading with localized := true }
  | .reference explicit =>
      let previous := reading.reference.bind (·.target)
      { reading with reference := some ⟨explicit.or previous⟩ }
  | .unknown =>
      let diagnostic := Diagnostic.ofCause (.unknownTag (String.ofList tag) raw)
      { reading with diagnostics := reading.diagnostics ++ [diagnostic] }

/-- The last scope named, or all targets. -/
def chosenScope (reading : Reading) : Scope := reading.scopes.getLast?.getD .all

/-- Whether two scope tags in a row differ. -/
def hasConflict (reading : Reading) : Bool :=
  (reading.scopes.zip reading.scopes.tail).any fun (former, later) => former != later

end Reading

/-- The name part and the tags of a trimmed header; blank tags do not count. -/
def parts (chars : List Char) : List Char × List (List Char) :=
  match pieces (· == '@') chars with
  | [] => ([], [])
  | front :: rest => (trim front, (rest.map trim).filter fun tag => !tag.isEmpty)

/-- Reads a header cell. A parenthetical in the name part names the target of a
reference column and belongs to the name of every other column. -/
def ofText (cell : String) : Header :=
  let chars := trim cell.toList
  let raw := String.ofList chars
  let (namePart, tags) := parts chars
  let reading := tags.foldl (Reading.addTag raw) Reading.empty
  let conflict :=
    if reading.hasConflict then
      [Diagnostic.ofCause (.conflictingScopes raw reading.chosenScope)]
    else []
  let (nameText, parenthetical) :=
    match splitParenthetical? namePart, reading.reference with
    | some (head, inner), some _ => (head, nonEmpty? inner)
    | _, _ => (namePart, none)
  let name := cleanName nameText
  let reference := reading.reference.map fun (mark : ReferenceMark) =>
    ReferenceMark.mk (mark.target.or (parenthetical.or (targetOfName? name)))
  let missing :=
    match reference with
    | some ⟨none⟩ => [Diagnostic.ofCause (.missingReferenceTarget raw)]
    | _ => []
  { raw
    name
    scope := if reading.excluded then .excluded else reading.chosenScope
    localized := reading.localized
    reference
    diagnostics := reading.diagnostics ++ conflict ++ missing }

end Header

end SheetCompiler

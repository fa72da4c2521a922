import SheetCompiler.Document.Yaml.Scalar

/-!
# Decoding documents

Reading typed parts out of a document. A part of the wrong type has no reading.

A record is read from an object by the names of its fields. Unknown members are
ignored, and a field that occurs twice is refused. Where the notation allows it a
record may also be an array of its fields in order.
-/

set_option autoImplicit false

namespace SheetCompiler.Document

def text? : Document → Option String
  | string value => some value
  | plain text => some text
  | _ => none

def bool? : Document → Option Bool
  | bool value => some value
  | plain text => Yaml.bool? text.toList
  | _ => none

/-- A natural number of 64 bits. -/
def natural? : Document → Option Nat
  | integer value => if 0 ≤ value then some value.toNat else none
  | plain text => Yaml.natural? text.toList
  | _ => none

def decimal? : Document → Option Binary64
  | integer value => some (Binary64.ofInt value)
  | number value => some value
  | plain text => Yaml.decimal? text.toList
  | _ => none

def isNull : Document → Bool
  | null => true
  | plain text => Yaml.isNull text.toList
  | _ => false

/-- Null, or a value. -/
def optional? {α : Type} (decode : Document → Option α) (document : Document) :
    Option (Option α) :=
  if document.isNull then some none else (decode document).map some

/-- The items of an array. Where nothing is written there are none. -/
def list? {α : Type} (decode : Document → Option α) : Document → Option (List α)
  | array items => items.mapM decode
  | plain "" => some []
  | _ => none

/-- The entries of an object by key; the last entry of a key counts. -/
def table? {α : Type} (decode : Document → Option α) : Document → Option (List (String × α))
  | object members => do
      let entries ← members.mapM fun (key, value) => (decode value).map fun value => (key, value)
      return entries.foldl (fun table entry =>
        (table.filter fun former => former.1 != entry.1) ++ [entry]) []
  | plain "" => some []
  | _ => none

/-- The notation a document was written in. -/
inductive Notation where
  | json
  | yaml
  deriving DecidableEq, Repr

/-- The fields of a record, by name or by position. -/
inductive Parts where
  | named (members : List (String × Document))
  | positional (items : List Document)

/-- A leaf that leaves its type to the reader gets the type that it shows. -/
def settled : Document → Document
  | plain text => Yaml.resolve text
  | document => document

namespace Parts

/-- Whether no member of the record occurs twice. -/
def isUnambiguous (names : List String) (members : List (String × Document)) : Bool :=
  names.all fun name => members.countP (fun member => member.1 == name) ≤ 1

/-- The fields of a record with the given field names. -/
def ofDocument? (style : Notation) (names : List String) : Document → Option Parts
  | .object members => if isUnambiguous names members then some (named members) else none
  | .array items =>
      if style = .json ∧ items.length ≤ names.length then some (positional items) else none
  | .plain text => if style = .yaml ∧ text.isEmpty then some (named []) else none
  | _ => none

/-- The document of a field. -/
def find? (parts : Parts) (names : List String) (name : String) : Option Document :=
  match parts with
  | named members => (members.find? fun member => member.1 == name).map (·.2)
  | positional items => (names.idxOf? name).bind fun index => items[index]?

/-- A field that must be there. -/
def required? {α : Type} (parts : Parts) (names : List String) (name : String)
    (decode : Document → Option α) : Option α :=
  (parts.find? names name).bind decode

/-- A field that is null when its name is missing. An array must hold it. -/
def nullable? {α : Type} (parts : Parts) (names : List String) (name : String)
    (decode : Document → Option α) : Option (Option α) :=
  match parts.find? names name, parts with
  | some document, _ => document.optional? decode
  | none, named _ => some none
  | none, positional _ => none

/-- A field with a default. -/
def defaulted? {α : Type} (parts : Parts) (names : List String) (name : String)
    (fallback : α) (decode : Document → Option α) : Option α :=
  match parts.find? names name with
  | some document => decode document
  | none => some fallback

end Parts

/-- The name of an alternative and what it holds. An alternative is its name
alone or an object with one member. -/
def alternative? : Document → Option (String × Option Document)
  | string name => some (name, none)
  | plain name => some (name, none)
  | object [(name, content)] => some (name, some content)
  | _ => none

/-- An alternative that holds nothing. -/
def constant? {α : Type} (ofName? : String → Option α) (document : Document) : Option α := do
  let (name, content) ← document.alternative?
  if (content.map isNull).getD true then ofName? name else none

end SheetCompiler.Document

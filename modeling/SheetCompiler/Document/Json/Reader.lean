import SheetCompiler.Document.Json.Number
import SheetCompiler.Document.Json.Token

/-!
# Reading JSON

A pushdown machine over the tokens of a text. The stack holds the arrays and
objects that are still open.
-/

set_option autoImplicit false

namespace SheetCompiler.Json

/-- The document of a word. -/
def documentOfWord? (chars : List Char) : Option Document :=
  if chars = "null".toList then some .null
  else if chars = "true".toList then some (.bool true)
  else if chars = "false".toList then some (.bool false)
  else (Literal.ofChars? chars).map Literal.toDocument

/-- An open array or object around the value that is being read. What it holds
already is in reverse. -/
inductive Frame where
  | items (read : List Document)
  | members (read : List (String × Document)) (key : String)
  deriving BEq, Repr

/-- What the machine waits for. -/
inductive State where
  | value
  /-- A value, or the end of an array that has none. -/
  | firstItem
  /-- A comma or the end of an array. -/
  | afterItem (read : List Document)
  /-- A key, or the end of an object that has none. -/
  | firstKey
  | key (read : List (String × Document))
  | colon (read : List (String × Document)) (key : String)
  /-- A comma or the end of an object. -/
  | afterMember (read : List (String × Document))
  /-- The end of the text. -/
  | done (document : Document)
  deriving BEq, Repr

/-- Puts a complete document where it belongs. -/
def place (document : Document) : List Frame → List Frame × State
  | [] => ([], .done document)
  | .items read :: stack => (stack, .afterItem (document :: read))
  | .members read key :: stack => (stack, .afterMember ((key, document) :: read))

/-- Reads the first token of a value. -/
def openValue? (stack : List Frame) : Token → Option (List Frame × State)
  | .openObject => some (stack, .firstKey)
  | .openArray => some (stack, .firstItem)
  | .word chars => (documentOfWord? chars).map fun document => place document stack
  | .string value => some (place (.string value) stack)
  | _ => none

/-- Reads one token. -/
def advance? (stack : List Frame) (state : State) (token : Token) :
    Option (List Frame × State) :=
  match state, token with
  | .value, token => openValue? stack token
  | .firstItem, .closeArray => some (place (.array []) stack)
  | .firstItem, token => openValue? (.items [] :: stack) token
  | .afterItem read, .comma => some (.items read :: stack, .value)
  | .afterItem read, .closeArray => some (place (.array read.reverse) stack)
  | .firstKey, .closeObject => some (place (.object []) stack)
  | .firstKey, .string key => some (stack, .colon [] key)
  | .key read, .string key => some (stack, .colon read key)
  | .colon read key, .colon => some (.members read key :: stack, .value)
  | .afterMember read, .comma => some (stack, .key read)
  | .afterMember read, .closeObject => some (place (.object read.reverse) stack)
  | _, _ => none

/-- Runs the machine over the rest of the tokens. -/
def run? (stack : List Frame) (state : State) : List Token → Option Document
  | [] =>
      match state with
      | .done document => some document
      | _ => none
  | token :: tokens => do
      let (stack, state) ← advance? stack state token
      run? stack state tokens

/-- Reads a JSON text that holds exactly one document. -/
def read? (text : String) : Option Document := do
  let tokens ← tokens? .between text.toList
  run? [] .value tokens

end SheetCompiler.Json

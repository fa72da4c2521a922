import SheetCompiler.Document
import SheetCompiler.Number.Shortest
import SheetCompiler.Value

/-!
# Writing JSON

Documents as indented text: two blanks for each level, one member or item on
each line. Empty arrays and objects stay on one line.
-/

set_option autoImplicit false

namespace SheetCompiler.Json

/-- The hexadecimal digits of a control character, four places wide. -/
def controlDigits (n : Nat) : List Char :=
  ['0', '0', Nat.digitChar (n / 16), Nat.digitChar (n % 16)]

/-- A character inside a JSON string. -/
def escapeChar (c : Char) : List Char :=
  if c == '"' then ['\\', '"']
  else if c == '\\' then ['\\', '\\']
  else if c == '\x08' then ['\\', 'b']
  else if c == '\x0c' then ['\\', 'f']
  else if c == '\n' then ['\\', 'n']
  else if c == '\r' then ['\\', 'r']
  else if c == '\t' then ['\\', 't']
  else if c.toNat < 0x20 then '\\' :: 'u' :: controlDigits c.toNat
  else [c]

/-- A text between quotes. -/
def quote (text : String) : String :=
  String.ofList ('"' :: text.toList.flatMap escapeChar ++ ['"'])

def indent (level : Nat) : String := String.ofList (List.replicate (2 * level) ' ')

/-- Rows between brackets, each on its own line. -/
def bracketed (level : Nat) (opening closing : Char) (rows : List String) : String :=
  if rows.isEmpty then String.ofList [opening, closing]
  else
    let inner := indent (level + 1)
    String.ofList [opening, '\n'] ++
      String.intercalate ",\n" (rows.map fun row => inner ++ row) ++
      "\n" ++ indent level ++ String.ofList [closing]

mutual

/-- A document at a level of indentation. -/
def write (level : Nat) : Document → String
  | .null => "null"
  | .bool value => Value.displayBool value
  | .integer value => Value.displayInt value
  | .number value => Shortest.display value
  | .string value => quote value
  | .plain text => quote text
  | .array items => bracketed level '[' ']' (writeItems (level + 1) items)
  | .object members => bracketed level '\x7b' '\x7d' (writeMembers (level + 1) members)

def writeItems (level : Nat) : List Document → List String
  | [] => []
  | item :: items => write level item :: writeItems level items

def writeMembers (level : Nat) : List (String × Document) → List String
  | [] => []
  | (key, value) :: members =>
      (quote key ++ ": " ++ write level value) :: writeMembers level members

end

/-- The indented text of a document. -/
def render (document : Document) : String := write 0 document

end SheetCompiler.Json

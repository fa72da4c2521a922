import SheetCompiler.Text.Basic

/-!
# Writing delimited text

Records as lines of fields with commas between them. A field is quoted when it
holds a comma, a quote or a line break, and a quote inside it is written twice.
-/

set_option autoImplicit false

namespace SheetCompiler.Delimited

def needsQuotes (cs : List Char) : Bool :=
  cs.any fun c => c == ',' || c == '"' || c == '\n' || c == '\r'

/-- Every quote written twice. -/
def doubled : List Char → List Char
  | [] => []
  | c :: cs => if c = '"' then '"' :: '"' :: doubled cs else c :: doubled cs

def writeField (cs : List Char) : List Char :=
  if needsQuotes cs then '"' :: (doubled cs ++ ['"']) else cs

/-- Fields with commas between them. -/
def writeFields : List (List Char) → List Char
  | [] => []
  | [field] => writeField field
  | field :: fields => writeField field ++ ',' :: writeFields fields

/-- A record with its line break. A single empty field is quoted, because a blank
line is no record. -/
def writeRecord (fields : List (List Char)) : List Char :=
  if fields = [[]] then ['"', '"', '\n'] else writeFields fields ++ ['\n']

/-- Records one after the other. -/
def write (records : List (List String)) : String :=
  String.ofList (records.flatMap fun record => writeRecord (record.map String.toList))

end SheetCompiler.Delimited

import SheetCompiler.Localization.Key
import SheetCompiler.Localization.Table
import SheetCompiler.Number.Binary64
import SheetCompiler.Pattern.Reader
import SheetCompiler.Schema
import SheetCompiler.Sheet

/-!
# Localization of sheets

Moving texts out of a sheet: each text of a localized field goes into a
localization table, and its cell keeps the key. Cells that are blank or hold a
key already stay as they are.

A field is localized when its header says so. Where detection is on, a plain text
field also is when its name holds one of the keywords or enough of its sampled
cells look like prose.
-/

set_option autoImplicit false

namespace SheetCompiler

structure LocalizationSettings where
  enabled : Bool
  autoDetect : Bool
  keywords : List String
  keyPattern : String
  sampleSize : Nat
  detectionRatio : Binary64
  lengthThreshold : Nat
  summaryWords : Nat
  deriving DecidableEq, Repr

namespace LocalizationSettings

def standard : LocalizationSettings :=
  { enabled := true
    autoDetect := false
    keywords := ["name", "desc", "title", "text", "tooltip", "message", "dialog"]
    keyPattern := "^LOC_[A-Z0-9_]+$"
    sampleSize := 50
    detectionRatio := .ofRatio false 3 10
    lengthThreshold := 40
    summaryWords := 3 }

end LocalizationSettings

/-- Settings whose key pattern has been read. -/
structure LocalizationRules where
  settings : LocalizationSettings
  keyPattern : Pattern
  deriving DecidableEq, Repr

/-- A key pattern that is not valid. -/
structure InvalidKeyPattern where
  pattern : String
  cause : Pattern.Fault
  deriving DecidableEq, Repr

namespace InvalidKeyPattern

/-- The error without its cause. -/
def message (error : InvalidKeyPattern) : String :=
  s!"Compiling localization key pattern '{error.pattern}'"

/-- The error with its cause. -/
def fullMessage (error : InvalidKeyPattern) : String := s!"{error.message}: {error.cause.message}"

end InvalidKeyPattern

namespace LocalizationRules

def ofSettings (settings : LocalizationSettings) : Except InvalidKeyPattern LocalizationRules :=
  match Pattern.ofText settings.keyPattern with
  | .ok keyPattern => .ok ⟨settings, keyPattern⟩
  | .error cause => .error ⟨settings.keyPattern, cause⟩

def isKey (rules : LocalizationRules) (text : String) : Bool := rules.keyPattern.isFoundIn text

/-! ## Detection -/

def looksLikeProse (rules : LocalizationRules) (text : String) : Bool :=
  Localization.hasForeignLetter text || rules.settings.lengthThreshold < text.length

/-- Whether a field name holds a keyword, up to the case of ASCII letters. -/
def hasKeyword (rules : LocalizationRules) (name : String) : Bool :=
  rules.settings.keywords.any fun keyword =>
    Text.hasInfix (Text.lower keyword.toList) (Text.lower name.toList)

/-- The trimmed texts of a column that are neither blank nor keys, up to the size of
the sample. -/
def sample (rules : LocalizationRules) (sheet : Sheet) (column : Nat) : List String :=
  let texts := (sheet.columnTexts column).map fun (_, text) => Text.trimmed text
  (texts.filter fun text => !text.isEmpty && !rules.isKey text).take rules.settings.sampleSize

/-- Whether the share of prose in the sample reaches the ratio. An empty sample
has no share. -/
def sampleLooksLikeProse (rules : LocalizationRules) (sheet : Sheet) (column : Nat) : Bool :=
  let sampled := rules.sample sheet column
  let hits := sampled.countP rules.looksLikeProse
  !sampled.isEmpty &&
    rules.settings.detectionRatio.le (.ofRatio false hits sampled.length)

/-- Whether the texts of a field are to be moved out of a sheet. -/
def detects (rules : LocalizationRules) (sheet : Sheet) (field : Field) : Bool :=
  match field.kind with
  | .localized => true
  | .plain =>
      rules.settings.autoDetect && field.type == .scalar .string &&
        (rules.hasKeyword field.name || rules.sampleLooksLikeProse sheet field.column)
  | _ => false

/-- The names of the detected fields in schema order. -/
def detectedFields (rules : LocalizationRules) (schema : Schema) (sheet : Sheet) : List String :=
  (schema.fields.filter (rules.detects sheet)).map (·.name)

end LocalizationRules

/-! ## Extraction -/

/-- What localization changes. -/
structure LocalizedTable where
  schema : Schema
  sheet : Sheet
  table : LocalizationTable
  replaced : Nat
  deriving DecidableEq, Repr

namespace LocalizedTable

/-- Moves the text of one cell into the table. -/
def moveCell (rules : LocalizationRules) (name : String) (column : Nat)
    (state : LocalizedTable) (cell : Nat × String) : LocalizedTable :=
  let text := Text.trimmed cell.2
  if text.isEmpty || rules.isKey text then state
  else
    let base := Localization.keyBase name text rules.settings.summaryWords
    let (table, key) := state.table.insert base text state.schema.name name
    let metadata := state.schema.metadata
    let keys := metadata.localizationKeys ++ [key]
    { schema := { state.schema with metadata := { metadata with localizationKeys := keys } }
      sheet := state.sheet.setCell cell.1 column (Localization.keyMark ++ key)
      table
      replaced := state.replaced + 1 }

/-- A detected plain field becomes localized. -/
def markLocalized (field : Field) : Field :=
  if field.kind == .plain then { field with kind := .localized } else field

/-- Lists a field among the localized ones. -/
def listField (name : String) (schema : Schema) : Schema :=
  let metadata := schema.metadata
  if metadata.localizedFields.contains name then schema
  else
    { schema with
      metadata := { metadata with localizedFields := metadata.localizedFields ++ [name] } }

/-- Moves the texts of the field of a name into the table. -/
def moveField (rules : LocalizationRules) (state : LocalizedTable) (name : String) :
    LocalizedTable :=
  match state.schema.field? name with
  | none => state
  | some field =>
      let marked := { state with schema := state.schema.modifyField name markLocalized }
      let cells := marked.sheet.columnTexts field.column
      let moved := cells.foldl (moveCell rules name field.column) marked
      { moved with schema := listField name moved.schema }

end LocalizedTable

/-- Moves the texts of all detected fields into a table. -/
def LocalizationRules.extract (rules : LocalizationRules) (schema : Schema) (sheet : Sheet)
    (table : LocalizationTable) : LocalizedTable :=
  (rules.detectedFields schema sheet).foldl (LocalizedTable.moveField rules)
    ⟨schema, sheet, table, 0⟩

end SheetCompiler

import SheetCompiler.Value.Reading

/-!
# Structured cells

Checking and normalizing the text of a cell against its type. Every element is
checked on its own; a faulty element is reported and stays in the text.
-/

set_option autoImplicit false

namespace SheetCompiler

open Text

/-- What is wrong with a part of a cell. -/
inductive CellFault where
  | invalidElement (element : String) (error : ReadError)
  | duplicateKey (key : String)
  | missingKey (entry : String)
  deriving DecidableEq, Repr

def CellFault.message : CellFault → String
  | .invalidElement element error => s!"Invalid element '{element}': {error.message}"
  | .duplicateKey key => s!"Duplicate map key '{key}'"
  | .missingKey entry => s!"Entry '{entry}' is missing a key separator"

/-- The normalized text of a cell, the element count of each row or array in it,
and what is wrong with it. -/
structure CellReport where
  normalized : String
  widths : List Nat
  faults : List CellFault
  deriving DecidableEq, Repr

namespace CellReport

def isValid (report : CellReport) : Bool := report.faults.isEmpty

/-- The faults of one element: at most one. -/
def checkElement (base : BaseType) (element : List Char) : List CellFault :=
  match Value.ofElement base element with
  | .ok _ => []
  | .error error => [.invalidElement (String.ofList element) error]

def joinedChars (separator : String) (parts : List (List Char)) : String :=
  joined separator (parts.map String.ofList)

def ofScalar (base : BaseType) (cs : List Char) : CellReport :=
  let element := trim cs
  { normalized := String.ofList element
    widths := []
    faults := if element.isEmpty then [] else checkElement base element }

def ofArray (base : BaseType) (cs : List Char) : CellReport :=
  let elements := splitElements cs
  { normalized := joinedChars "," elements
    widths := [elements.length]
    faults := elements.flatMap (checkElement base) }

/-- Rows without elements vanish. -/
def ofMatrix (base : BaseType) (cs : List Char) : CellReport :=
  let rows := ((splitRows cs).map splitElements).filter fun row => !row.isEmpty
  { normalized := joined ";" (rows.map (joinedChars ","))
    widths := rows.map List.length
    faults := rows.flatMap fun row => row.flatMap (checkElement base) }

/-- The normalized entries of a map and their faults. `seen` holds the keys
before them; a map with unique keys reports a key that was seen. -/
def entries (unique : Bool) (key value : BaseType) :
    (seen : List (List Char)) → List (List Char) → List (String × List CellFault)
  | _, [] => []
  | seen, entry :: rest =>
      match splitPair? entry with
      | none =>
          let text := String.ofList entry
          (text, [.missingKey text]) :: entries unique key value seen rest
      | some (keyText, valueText) =>
          let repeated :=
            if unique && seen.contains keyText then
              [CellFault.duplicateKey (String.ofList keyText)]
            else []
          let faults := checkElement key keyText ++ checkElement value valueText ++ repeated
          (String.ofList (keyText ++ ':' :: valueText), faults) ::
            entries unique key value (keyText :: seen) rest

def ofEntries (unique : Bool) (key value : BaseType) (cs : List Char) : CellReport :=
  let reports := entries unique key value [] (splitEntries cs)
  { normalized := joined "," (reports.map (·.1))
    widths := [reports.length]
    faults := reports.flatMap (·.2) }

/-- Checks a cell of the given type. Only maps have unique keys. -/
def ofCell (type : FieldType) (text : String) : CellReport :=
  let cs := text.toList
  match type with
  | .scalar base => ofScalar base cs
  | .array base => ofArray base cs
  | .matrix base => ofMatrix base cs
  | .map key value => ofEntries true key value cs
  | .pairs key value => ofEntries false key value cs

end CellReport

end SheetCompiler

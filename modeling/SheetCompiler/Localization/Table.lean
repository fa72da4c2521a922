import SheetCompiler.Delimited.Writer
import SheetCompiler.NameSet

/-!
# Localization tables

Texts under unique keys, in the order in which they were added. A key that is
taken gets the first free number as a suffix.
-/

set_option autoImplicit false

namespace SheetCompiler

/-- A text to be translated, with the table and the field it comes from. -/
structure LocalizationEntry where
  key : String
  text : String
  table : String
  field : String
  deriving DecidableEq, Repr

/-- The taken keys hold those of the entries and those that are only reserved. -/
structure LocalizationTable where
  entries : List LocalizationEntry
  keys : NameSet
  deriving DecidableEq, Repr

namespace LocalizationTable

def empty : LocalizationTable := ⟨[], .empty⟩

def size (table : LocalizationTable) : Nat := table.entries.length

def isEmpty (table : LocalizationTable) : Bool := table.entries.isEmpty

def contains (table : LocalizationTable) (key : String) : Bool := table.keys.contains key

/-- The text of the first entry of a key. -/
def get? (table : LocalizationTable) (key : String) : Option String :=
  (table.entries.find? fun entry => entry.key == key).map (·.text)

/-- Takes keys without adding entries. -/
def reserve (table : LocalizationTable) (keys : List String) : LocalizationTable :=
  { table with keys := table.keys.insertAll keys }

/-- A key with a suffix; the suffix 0 is not written. -/
def suffixed (base : String) : Nat → String
  | 0 => base
  | n + 1 => s!"{base}_{n + 1}"

/-- The key with the least suffix that is free. One of the suffixes up to the
number of taken keys is. -/
def freeKey (table : LocalizationTable) (base : String) : String :=
  let suffixes := List.range (table.keys.size + 1)
  let free := suffixes.find? fun n => !table.contains (suffixed base n)
  suffixed base (free.getD (table.keys.size + 1))

/-- Adds an entry under the first free key of `base`, and tells the key. -/
def insert (table : LocalizationTable) (base text source field : String) :
    LocalizationTable × String :=
  let key := table.freeKey base
  ({ entries := table.entries ++ [⟨key, text, source, field⟩], keys := table.keys.insert key }, key)

/-- Adds the entries of another table; taken keys get suffixes. -/
def extend (table other : LocalizationTable) : LocalizationTable :=
  other.entries.foldl (fun table entry =>
    (table.insert entry.key entry.text entry.table entry.field).1) table

/-- The entries as delimited text below a line of headings. -/
def toDelimited (table : LocalizationTable) : String :=
  Delimited.write <|
    ["key", "text", "table", "field"] ::
      table.entries.map fun entry => [entry.key, entry.text, entry.table, entry.field]

end LocalizationTable

end SheetCompiler

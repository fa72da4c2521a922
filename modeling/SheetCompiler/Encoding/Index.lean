/-!
# Indices

Tables from numbers to characters.
-/

set_option autoImplicit false

namespace SheetCompiler.Encoding

/-- The characters of the numbers from zero on; a point stands for a number without
a character. -/
structure Index where
  chars : Array Char

namespace Index

/-- The characters of a table that is written over several lines. -/
def charsOfLines (lines : String) : List Char :=
  lines.toList.filter fun c => c != '\n' && c != ' '

/-- An index of runs of characters, each behind a number of gaps. -/
def ofRuns (runs : List (Nat × String)) : Index :=
  ⟨runs.foldl (fun chars (gap, text) =>
    chars ++ Array.replicate gap '.' ++ (charsOfLines text).toArray) #[]⟩

def ofText (text : String) : Index := ofRuns [(0, text)]

/-- The character of a number. -/
def get? (index : Index) (n : Nat) : Option Char :=
  (index.chars[n]?).filter fun c => c != '.'

end Index

end SheetCompiler.Encoding

import SheetCompiler.Text.Basic
import SheetCompiler.Text.Quoted

/-!
# Paths

The text of a path and its parts. Separators in a row, separators at the end and
the sign for the same directory name nothing.
-/

set_option autoImplicit false

namespace SheetCompiler

structure Path where
  text : String
  deriving DecidableEq, Repr

namespace Path

def isSeparator (c : Char) : Bool := c == '/'

/-- The texts between separators. -/
def pieces (path : Path) : List (List Char) := Text.pieces isSeparator path.text.toList

/-- Whether a path begins at the root. -/
def isAbsolute (path : Path) : Bool := path.text.toList.head?.any isSeparator

def here : List Char := ['.']

def above : List Char := ['.', '.']

/-- A piece that names nothing. -/
def isIdle (piece : List Char) : Bool := piece.isEmpty || piece == here

/-- Pieces without idle ones at the end. The first piece stays: it tells whether the
path begins at the root. -/
def withoutIdleEnd : List (List Char) → List (List Char)
  | [] => []
  | first :: rest => first :: Text.dropEndWhile isIdle rest

/-- The name of what a path leads to. -/
def name? (path : Path) : Option (List Char) :=
  ((withoutIdleEnd path.pieces).getLast?).filter fun piece => !(isIdle piece || piece == above)

/-- A name before and behind its last point. A point in front ends nothing. -/
def splitName (name : List Char) : List Char × Option (List Char) :=
  match Text.cut? (fun c => c == '.') name.reverse with
  | some (extension, stem) =>
      if stem.isEmpty then (name, none) else (stem.reverse, some extension.reverse)
  | none => (name, none)

/-- The name without its extension. -/
def stem? (path : Path) : Option String :=
  path.name?.map fun name => String.ofList (splitName name).1

def extension? (path : Path) : Option (List Char) := path.name?.bind fun name => (splitName name).2

/-- The path of pieces. -/
def ofPieces (pieces : List (List Char)) : Path :=
  if pieces = [[]] then ⟨"/"⟩ else ⟨Text.joined "/" (pieces.map String.ofList)⟩

/-- The path of the directory that holds what a path leads to. -/
def parent? (path : Path) : Option Path :=
  let pieces := withoutIdleEnd path.pieces
  if pieces = [[]] then none else some (ofPieces (withoutIdleEnd pieces.dropLast))

/-- The path of something inside a directory. -/
def join (directory : Path) (inner : String) : Path :=
  if directory.text.isEmpty || directory.text.toList.getLast? == some '/' then
    ⟨directory.text ++ inner⟩
  else ⟨directory.text ++ "/" ++ inner⟩

/-- The path as messages show it. -/
def quoted (path : Path) : String := Text.Quoted.writeStrict path.text

end Path

end SheetCompiler

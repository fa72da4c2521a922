import SheetCompiler.Files
import SheetCompiler.Sheet.Reading

/-!
# Table files

The files that tables are read from. The name of a table is that of its file
without the extension, and the extension tells the delimiter.
-/

set_option autoImplicit false

namespace SheetCompiler.TableFile

def commaExtension : List Char := "csv".toList

def tabExtension : List Char := "tsv".toList

/-- The extension of a path in lower case. -/
def extension? (path : Path) : Option (List Char) := path.extension?.map Text.lower

def hasTableExtension (path : Path) : Bool :=
  extension? path == some commaExtension || extension? path == some tabExtension

/-- A tab in files that say so, and a comma in all others. -/
def delimiter (path : Path) : UInt8 := if extension? path == some tabExtension then 0x09 else 0x2C

/-- A path that names no table. -/
structure Unnamed where
  path : Path
  deriving DecidableEq, Repr

def Unnamed.message (unnamed : Unnamed) : String :=
  s!"Cannot derive a table name from {unnamed.path.quoted}"

def tableName (path : Path) : Except Unnamed String :=
  match path.stem? with
  | some stem => .ok stem
  | none => .error ⟨path⟩

section

variable {m : Type → Type} [Monad m] [Files m]

/-- Whether a path leads to a file with an extension of tables. -/
def isTable (path : Path) : m Bool :=
  return (← Files.kind? path) == some .file && hasTableExtension path

end

/-! ## Loading -/

/-- Why a table is not loaded. -/
inductive LoadFault where
  | unnamed (cause : Unnamed)
  | unopened (path : Path) (cause : FileFault)
  | unread (table : String) (cause : FileFault)
  | row (cause : Sheet.RowFault)
  deriving DecidableEq, Repr

def LoadFault.message : LoadFault → String
  | unnamed cause => cause.message
  | unopened path cause => s!"Opening table file {path.quoted}: {cause.message}"
  | unread table cause => s!"Reading row 1 of '{table}': {cause.message}"
  | row cause => cause.message

/-- A directory is opened like a file, but nothing is read from it. -/
def LoadFault.ofAccess (path : Path) (table : String) : FileFault → LoadFault
  | .isDirectory => .unread table .isDirectory
  | cause => .unopened path cause

section

variable {m : Type → Type} [Monad m] [Files m]

/-- The sheet of a table file. -/
def load (encoding : Encoding) (path : Path) : m (Except LoadFault Sheet) := do
  match tableName path with
  | .error unnamed => return .error (.unnamed unnamed)
  | .ok name =>
      match ← Files.read path with
      | .error cause => return .error (.ofAccess path name cause)
      | .ok bytes =>
          match Sheet.ofBytes name (delimiter path) encoding bytes with
          | .error fault => return .error (.row fault)
          | .ok sheet => return .ok sheet

end

/-! ## Inputs -/

/-- Why the tables of an input are not found. -/
inductive InputFault where
  | missing (input : Path)
  | unlisted (directory : Path) (cause : FileFault)
  deriving DecidableEq, Repr

def InputFault.message : InputFault → String
  | missing input => s!"Input {input.quoted} does not exist"
  | unlisted directory cause => s!"Reading directory {directory.quoted}: {cause.message}"

/-- Puts a name before the first one that is not smaller. -/
def insertName (name : String) : List String → List String
  | [] => [name]
  | other :: names =>
      if other < name then other :: insertName name names else name :: other :: names

def sortedNames (names : List String) : List String := names.foldr insertName []

section

variable {m : Type → Type} [Monad m] [Files m]

/-- The tables of an input: the table files of a directory in the order of their
names, or the file itself, whatever its extension. -/
def ofInput (input : Path) : m (Except InputFault (List Path)) := do
  match ← Files.kind? input with
  | none => return .error (.missing input)
  | some .file => return .ok [input]
  | some .directory =>
      match ← Files.names input with
      | .error cause => return .error (.unlisted input cause)
      | .ok names =>
          return .ok (← ((sortedNames names).map input.join).filterM isTable)

/-- The tables of inputs one after the other. -/
def ofInputs : List Path → m (Except InputFault (List Path))
  | [] => return .ok []
  | input :: inputs => do
      match ← ofInput input with
      | .error fault => return .error fault
      | .ok tables => return (← ofInputs inputs).map (tables ++ ·)

end

end SheetCompiler.TableFile

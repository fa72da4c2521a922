import SheetCompiler.Path

/-!
# Files

What a program needs of the place where its files are, and why an access fails.
-/

set_option autoImplicit false

namespace SheetCompiler

inductive FileKind where
  | directory
  | file
  deriving DecidableEq, Repr

/-- Why a file or directory is not accessed. -/
inductive FileFault where
  | notFound
  | notDirectory
  | isDirectory
  | alreadyThere
  | other (text : String)
  deriving DecidableEq, Repr

def FileFault.message : FileFault → String
  | notFound => "No such file or directory (os error 2)"
  | notDirectory => "Not a directory (os error 20)"
  | isDirectory => "Is a directory (os error 21)"
  | alreadyThere => "File exists (os error 17)"
  | other text => text

/-- A place of files, accessed from a monad. -/
class Files (m : Type → Type) where
  /-- What a path leads to. -/
  kind? : Path → m (Option FileKind)
  /-- The names in a directory, in any order. -/
  names : Path → m (Except FileFault (List String))
  /-- The bytes of a file. -/
  read : Path → m (Except FileFault (List UInt8))
  /-- Makes a directory and those above it, unless they are there. -/
  makeDirectories : Path → m (Except FileFault Unit)
  /-- Writes a file in a directory that is there. A former file is replaced. -/
  write : Path → List UInt8 → m (Except FileFault Unit)

end SheetCompiler

import SheetCompiler.Files
import SheetCompiler.Text.Bytes

/-!
# Output files

Files that a program leaves behind. The directories above them are made.
-/

set_option autoImplicit false

namespace SheetCompiler

structure Artifact where
  path : Path
  bytes : List UInt8
  deriving DecidableEq, Repr

/-- Why a file is not left behind. -/
inductive OutputFault where
  | directory (path : Path) (cause : FileFault)
  | file (path : Path) (cause : FileFault)
  deriving DecidableEq, Repr

def OutputFault.message : OutputFault → String
  | directory path cause => s!"Creating directory {path.quoted}: {cause.message}"
  | file path cause => s!"Creating output file {path.quoted}: {cause.message}"

namespace Artifact

def ofText (path : Path) (text : String) : Artifact := ⟨path, Text.utf8 text⟩

variable {m : Type → Type} [Monad m] [Files m]

/-- Makes the directories above a path. -/
def makeParent (path : Path) : m (Except OutputFault Unit) :=
  match path.parent? with
  | none => return .ok ()
  | some parent => return (← Files.makeDirectories parent).mapError (.directory parent)

def write (artifact : Artifact) : m (Except OutputFault Unit) := do
  match ← makeParent artifact.path with
  | .error fault => return .error fault
  | .ok () => return (← Files.write artifact.path artifact.bytes).mapError (.file artifact.path)

/-- Writes files one after the other, up to the first that fails. -/
def writeAll : List Artifact → m (Except OutputFault Unit)
  | [] => return .ok ()
  | artifact :: artifacts => do
      match ← artifact.write with
      | .error fault => return .error fault
      | .ok () => writeAll artifacts

end Artifact

end SheetCompiler

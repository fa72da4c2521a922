import SheetCompiler.KnownTypes
import SheetCompiler.TableFile

/-!
# Discovering known types

The types that the table files of a directory stand for.
-/

set_option autoImplicit false

namespace SheetCompiler.KnownTypes

/-- The names in a directory are not read. -/
structure DiscoveryFault where
  directory : Path
  cause : FileFault
  deriving DecidableEq, Repr

def DiscoveryFault.message (fault : DiscoveryFault) : String :=
  s!"Reading table directory {fault.directory.quoted}: {fault.cause.message}"

/-- The standard types and those of every name with an extension of tables. -/
def ofNames (names : List String) : KnownTypes :=
  standard.insertAll
    (((names.map Path.mk).filter TableFile.hasTableExtension).filterMap Path.stem?)

/-- The known types of a project with its tables in a directory. -/
def discover {m : Type → Type} [Monad m] [Files m] (directory : Path) :
    m (Except DiscoveryFault KnownTypes) :=
  return match ← Files.names directory with
    | .ok names => .ok (ofNames names)
    | .error cause => .error ⟨directory, cause⟩

end SheetCompiler.KnownTypes

import SheetCompiler.CommandLine

/-!
# The program

Files are those of the machine, and everything else is `CommandLine.run`.
-/

set_option autoImplicit false

namespace SheetCompiler

/-- What an error of the machine says about a file. Its code may be negated. -/
def FileFault.ofError : IO.Error → FileFault
  | .noFileOrDirectory .. => .notFound
  | .alreadyExists .. => .alreadyThere
  | .inappropriateType _ code _ =>
      if code = 21 ∨ 0 - code = 21 then .isDirectory else .notDirectory
  | error => .other (toString error)

/-- The result of an action, or what its error says. -/
def catchFault {α : Type} (action : IO α) : IO (Except FileFault α) := do
  match ← action.toBaseIO with
  | .ok result => return .ok result
  | .error error => return .error (.ofError error)

/-- What a path of the machine leads to. -/
def kindOf? (path : Path) : IO (Option FileKind) := do
  if path.text.isEmpty then return none
  let place := (← IO.currentDir) / path.text
  if ← place.isDir then return some .directory
  return if ← place.pathExists then some .file else none

/-- Makes a directory, and before it those above that are missing. -/
partial def makeDirectory (path : Path) : IO Unit := do
  if path.text.isEmpty then return
  try IO.FS.createDir path.text
  catch error =>
    if (← kindOf? path) != some .directory then
      match error, path.parent? with
      | .noFileOrDirectory .., some parent =>
          makeDirectory parent
          IO.FS.createDir path.text
      | _, _ => throw error

instance : Files IO where
  kind? := kindOf?
  names path := catchFault do
    let entries ← ((← IO.currentDir) / path.text).readDir
    return entries.toList.map (·.fileName)
  read path := catchFault do
    return (← IO.FS.readBinFile path.text).data.toList
  makeDirectories path := catchFault (makeDirectory path)
  write path bytes := catchFault do
    IO.FS.writeBinFile path.text ⟨bytes.toArray⟩

end SheetCompiler

open SheetCompiler in
/-- Runs the program with its arguments. -/
def main (arguments : List String) : IO UInt32 := do
  let outcome ← CommandLine.run .least arguments
  IO.print outcome.output
  if let some message := outcome.error then IO.eprintln ("error: " ++ message)
  if outcome.exitCode = 2 then IO.eprint CommandLine.helpText
  return outcome.exitCode.toUInt32

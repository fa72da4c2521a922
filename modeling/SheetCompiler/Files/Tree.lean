import SheetCompiler.Files

/-!
# File trees

A place of files as a value: what stands at every path from the root, and the directory where
paths begin that do not begin at the root.
-/

set_option autoImplicit false

namespace SheetCompiler

inductive FileNode where
  | directory
  | file (bytes : List UInt8)
  deriving DecidableEq, Repr

/-- Files and directories by the names that lead to them from the root. The working directory
and those above it are always there and are not listed. -/
structure FileTree where
  working : List String
  entries : List (List String × FileNode)
  deriving DecidableEq, Repr

namespace FileTree

/-- Nothing but a working directory. -/
def empty : FileTree := ⟨["work"], []⟩

/-- What stands behind names. -/
def node? (tree : FileTree) (names : List String) : Option FileNode :=
  if names.isPrefixOf tree.working then some .directory
  else (tree.entries.find? fun entry => entry.1 == names).map (·.2)

/-- What stands below the working directory, by the names that lead on from there. -/
def nodes (tree : FileTree) : List (List String × FileNode) :=
  tree.entries.filterMap fun (names, node) =>
    if tree.working.isPrefixOf names then some (names.drop tree.working.length, node) else none

/-- Puts a node behind names, in place of a former one. -/
def put (tree : FileTree) (names : List String) (node : FileNode) : FileTree :=
  { tree with
    entries := (tree.entries.filter fun entry => entry.1 != names) ++ [(names, node)] }

/-- The names behind which the pieces of a path lead, of which all but the last one
must be there. Nothing is above the root but the root itself. -/
def follow (tree : FileTree) (names : List String) :
    List (List Char) → Except FileFault (List String)
  | [] => .ok names
  | piece :: pieces =>
      match tree.node? names with
      | none => .error .notFound
      | some (.file _) => .error .notDirectory
      | some .directory =>
          if Path.isIdle piece then tree.follow names pieces
          else if piece = Path.above then tree.follow names.dropLast pieces
          else tree.follow (names ++ [String.ofList piece]) pieces

/-- The names of the directory in which a path begins. -/
def start (tree : FileTree) (path : Path) : List String :=
  if path.isAbsolute then [] else tree.working

def locate (tree : FileTree) (path : Path) : Except FileFault (List String) :=
  if path.text.isEmpty then .error .notFound else tree.follow (tree.start path) path.pieces

def nodeAt (tree : FileTree) (path : Path) : Except FileFault FileNode := do
  match tree.node? (← tree.locate path) with
  | some node => .ok node
  | none => .error .notFound

def kind? (tree : FileTree) (path : Path) : Option FileKind :=
  match tree.nodeAt path with
  | .ok .directory => some .directory
  | .ok (.file _) => some .file
  | .error _ => none

def read (tree : FileTree) (path : Path) : Except FileFault (List UInt8) := do
  match ← tree.nodeAt path with
  | .file bytes => .ok bytes
  | .directory => .error .isDirectory

/-- The names of what stands right below other names. -/
def namesBelow (tree : FileTree) (names : List String) : List String :=
  let onTheWay :=
    if names.isPrefixOf tree.working then (tree.working.drop names.length).take 1 else []
  onTheWay ++ tree.entries.filterMap fun entry =>
    if entry.1.dropLast == names then entry.1.getLast? else none

def names (tree : FileTree) (path : Path) : Except FileFault (List String) := do
  let names ← tree.locate path
  match tree.node? names with
  | some .directory => .ok (tree.namesBelow names)
  | some (.file _) => .error .notDirectory
  | none => .error .notFound

/-- Makes the directories that the pieces of a path name. -/
def makeFrom (tree : FileTree) (names : List String) :
    List (List Char) → Except FileFault FileTree
  | [] => .ok tree
  | piece :: pieces =>
      if Path.isIdle piece then tree.makeFrom names pieces
      else if piece = Path.above then tree.makeFrom names.dropLast pieces
      else
        let inner := names ++ [String.ofList piece]
        match tree.node? inner with
        | some .directory => tree.makeFrom inner pieces
        | some (.file _) => .error (if pieces.isEmpty then .alreadyThere else .notDirectory)
        | none => (tree.put inner .directory).makeFrom inner pieces

def makeDirectories (tree : FileTree) (path : Path) : Except FileFault FileTree :=
  if path.text.isEmpty then .ok tree else tree.makeFrom (tree.start path) path.pieces

def write (tree : FileTree) (path : Path) (bytes : List UInt8) : Except FileFault FileTree := do
  let names ← tree.locate path
  match tree.node? names with
  | some .directory => .error .isDirectory
  | _ => .ok (tree.put names (.file bytes))

/-- Makes a change, if it does not fail. -/
def change (attempt : FileTree → Except FileFault FileTree) :
    StateM FileTree (Except FileFault Unit) := fun tree =>
  match attempt tree with
  | .ok changed => (.ok (), changed)
  | .error fault => (.error fault, tree)

end FileTree

instance : Files (StateM FileTree) where
  kind? path := return (← get).kind? path
  names path := return (← get).names path
  read path := return (← get).read path
  makeDirectories path := FileTree.change fun tree => tree.makeDirectories path
  write path bytes := FileTree.change fun tree => tree.write path bytes

end SheetCompiler

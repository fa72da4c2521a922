import SheetCompiler.Files.Output
import SheetCompiler.Files.Tree
import SheetCompiler.Proofs.Files.Path

/-!
# Written files

Where a path leads does not depend on the tree, as long as it leads somewhere. Making
directories and writing files keeps all directories and all other files, so a file that has
been written stays until something else is written in its place.
-/

set_option autoImplicit false

namespace SheetCompiler

namespace FileTree

variable {tree former middle later : FileTree} {names place : List String}
  {pieces : List (List Char)} {path : Path} {bytes : List UInt8}

/-! ## Nodes -/

theorem find?_filter_ne (nodes : List (List String × FileNode)) {other : List String}
    (apart : other ≠ names) :
    ((nodes.filter fun entry => entry.1 != names).find? fun entry => entry.1 == other) =
      nodes.find? fun entry => entry.1 == other := by
  rw [List.find?_filter]
  congr 1
  funext entry
  by_cases here : entry.1 = other <;> simp [here, apart]

theorem find?_filter_self (nodes : List (List String × FileNode)) :
    ((nodes.filter fun entry => entry.1 != names).find? fun entry => entry.1 == names) = none := by
  rw [List.find?_filter]
  simp

/-- What is no directory is not on the way to the working directory. -/
theorem not_above_of_node? (free : tree.node? names ≠ some .directory) :
    ¬ names.isPrefixOf tree.working = true := by
  intro above
  unfold node? at free
  rw [if_pos above] at free
  exact free rfl

theorem node?_put {node : FileNode} (free : tree.node? names ≠ some .directory)
    (other : List String) :
    (tree.put names node).node? other = if other = names then some node else tree.node? other := by
  have apart := not_above_of_node? free
  unfold node? put
  dsimp only
  by_cases above : other.isPrefixOf tree.working = true
  · have differ : other ≠ names := fun same => apart (same ▸ above)
    rw [if_pos above, if_pos above, if_neg differ]
  · rw [if_neg above, if_neg above, List.find?_append]
    by_cases same : other = names
    · rw [same, find?_filter_self, if_pos rfl]
      simp
    · rw [find?_filter_ne tree.entries same, if_neg same]
      simp [Ne.symm same]

/-- All directories and all files stay, but for the files in some places. -/
structure Grows (written : List String → Prop) (former later : FileTree) : Prop where
  working : later.working = former.working
  directories : ∀ names, former.node? names = some .directory →
    later.node? names = some .directory
  files : ∀ names bytes, ¬ written names → former.node? names = some (.file bytes) →
    later.node? names = some (.file bytes)

namespace Grows

variable {written others : List String → Prop}

theorem refl (written : List String → Prop) (tree : FileTree) : Grows written tree tree :=
  ⟨rfl, fun _ present => present, fun _ _ _ present => present⟩

theorem trans (first : Grows written former middle) (second : Grows written middle later) :
    Grows written former later where
  working := second.working.trans first.working
  directories names present := second.directories names (first.directories names present)
  files names bytes apart present :=
    second.files names bytes apart (first.files names bytes apart present)

theorem mono (grows : Grows written former later)
    (within : ∀ names, written names → others names) : Grows others former later where
  working := grows.working
  directories := grows.directories
  files names bytes apart := grows.files names bytes fun inside => apart (within names inside)

end Grows

/-! ## Paths -/

theorem follow_cons (piece : List Char) (pieces : List (List Char)) :
    tree.follow names (piece :: pieces) =
      match tree.node? names with
      | none => .error .notFound
      | some (.file _) => .error .notDirectory
      | some .directory => tree.follow (Path.descend names piece) pieces := by
  rw [follow, Path.descend]
  cases tree.node? names with
  | none => rfl
  | some node =>
      cases node with
      | file bytes => rfl
      | directory =>
          dsimp only
          split
          · rfl
          · split <;> rfl

theorem follow_eq_resolve (found : tree.follow names pieces = .ok place) :
    place = Path.resolve names pieces := by
  induction pieces generalizing names with
  | nil => exact (Except.ok.inj found).symm
  | cons piece pieces ih =>
      rw [follow_cons] at found
      split at found
      · cases found
      · cases found
      · rw [Path.resolve_cons]
        exact ih found

/-- A path leads where it led before as long as no directory goes away. -/
theorem Grows.follow {written : List String → Prop} (grows : Grows written former later)
    (found : former.follow names pieces = .ok place) : later.follow names pieces = .ok place := by
  induction pieces generalizing names with
  | nil => exact found
  | cons piece pieces ih =>
      rw [follow_cons] at found ⊢
      split at found
      · cases found
      · cases found
      · rename_i present
        rw [grows.directories names present]
        exact ih found

theorem locate_eq_leadsTo (found : tree.locate path = .ok place) :
    place = path.leadsTo tree.working := by
  unfold locate at found
  split at found
  · cases found
  · exact follow_eq_resolve found

theorem Grows.locate {written : List String → Prop} (grows : Grows written former later)
    (found : former.locate path = .ok place) : later.locate path = .ok place := by
  unfold FileTree.locate at found ⊢
  split at found <;> rename_i bare
  · cases found
  · rw [if_neg bare, start, grows.working]
    exact grows.follow found

/-! ## Steps -/

theorem grows_put_directory (free : tree.node? names = none) :
    Grows (fun _ => False) tree (tree.put names .directory) where
  working := rfl
  directories other present := by
    rw [node?_put (by rw [free]; exact nofun)]
    split
    · rfl
    · exact present
  files other bytes _ present := by
    rw [node?_put (by rw [free]; exact nofun)]
    split
    · rename_i same
      rw [same, free] at present
      cases present
    · exact present

theorem grows_put_file (free : tree.node? names ≠ some .directory) :
    Grows (· = names) tree (tree.put names (.file bytes)) where
  working := rfl
  directories other present := by
    rw [node?_put free]
    split
    · rename_i same
      exact absurd (same ▸ present) free
    · exact present
  files other _ apart present := by
    rw [node?_put free, if_neg apart]
    exact present

theorem grows_makeFrom (made : tree.makeFrom names pieces = .ok later) :
    Grows (fun _ => False) tree later := by
  induction pieces generalizing tree names with
  | nil =>
      obtain rfl := Except.ok.inj made
      exact .refl _ tree
  | cons piece pieces ih =>
      rw [makeFrom] at made
      split at made
      · exact ih made
      · split at made
        · exact ih made
        · dsimp only at made
          split at made
          · exact ih made
          · cases made
          · rename_i free
            exact (grows_put_directory free).trans (ih made)

theorem grows_makeDirectories (made : tree.makeDirectories path = .ok later) :
    Grows (fun _ => False) tree later := by
  unfold makeDirectories at made
  split at made
  · obtain rfl := Except.ok.inj made
    exact .refl _ tree
  · exact grows_makeFrom made

/-- The later tree has a file with the given bytes where a path leads, and keeps all others. -/
structure Writes (path : Path) (bytes : List UInt8) (former later : FileTree) : Prop where
  grows : Grows (· = path.leadsTo former.working) former later
  located : later.locate path = .ok (path.leadsTo former.working)
  present : later.node? (path.leadsTo former.working) = some (.file bytes)

theorem writes_write (wrote : tree.write path bytes = .ok later) : Writes path bytes tree later := by
  unfold write at wrote
  cases found : tree.locate path with
  | error fault =>
      rw [found] at wrote
      cases wrote
  | ok place =>
      rw [found] at wrote
      obtain rfl := locate_eq_leadsTo found
      dsimp only [bind, Except.bind] at wrote
      split at wrote
      · cases wrote
      · rename_i free
        obtain rfl := Except.ok.inj wrote
        have grows : Grows _ tree (tree.put _ (.file bytes)) := grows_put_file free
        exact ⟨grows, grows.locate found, by rw [node?_put free, if_pos rfl]⟩

theorem read_of_node? (located : tree.locate path = .ok place)
    (present : tree.node? place = some (.file bytes)) : tree.read path = .ok bytes := by
  unfold FileTree.read nodeAt
  rw [located]
  dsimp only [bind, Except.bind]
  rw [present]

end FileTree

namespace Artifact

open FileTree

variable {tree later : FileTree} {artifact : Artifact} {artifacts : List Artifact}

/-! ## Runs -/

/-- The names behind which an artifact stands once it is written, by the working directory. -/
def place (working : List String) (artifact : Artifact) : List String :=
  artifact.path.leadsTo working

/-- Below one directory, plain paths of different names have places of their own. -/
theorem eq_of_place_eq {working : List String} {directory : Path} {inner other : String}
    {bytes written : List UInt8} (plain : (Path.mk inner).IsPlain)
    (plainToo : (Path.mk other).IsPlain)
    (same : place working ⟨directory.join inner, bytes⟩ =
      place working ⟨directory.join other, written⟩) :
    inner = other := by
  unfold place at same
  exact Path.eq_of_leadsTo_join plain plainToo same

/-- The output is written to a tree without a fault. -/
def WritesAll (artifacts : List Artifact) (tree later : FileTree) : Prop :=
  (writeAll artifacts : StateM FileTree (Except OutputFault Unit)).run tree = (.ok (), later)

theorem run_change (attempt : FileTree → Except FileFault FileTree)
    (wrap : FileFault → OutputFault) (tree : FileTree) :
    (do return (← change attempt).mapError wrap :
        StateM FileTree (Except OutputFault Unit)).run tree =
      match attempt tree with
      | .ok changed => (.ok (), changed)
      | .error fault => (.error (wrap fault), tree) := by
  change ((change attempt tree).1.mapError wrap, (change attempt tree).2) = _
  unfold change
  cases attempt tree <;> rfl

/-- What comes after a step runs from the tree that the step leaves behind. -/
theorem exists_middle_of_run {first next : StateM FileTree (Except OutputFault Unit)}
    (ran : (do
        match ← first with
        | .error fault => return .error fault
        | .ok () => next : StateM FileTree (Except OutputFault Unit)).run tree =
      (.ok (), later)) :
    ∃ middle, first.run tree = (.ok (), middle) ∧ next.run middle = (.ok (), later) := by
  rw [StateT.run_bind] at ran
  generalize first.run tree = result at ran ⊢
  match result, ran with
  | (.ok (), middle), ran => exact ⟨middle, rfl, ran⟩
  | (.error _, _), ran => cases ran

theorem grows_of_makeParent {path : Path}
    (made : (makeParent path : StateM FileTree (Except OutputFault Unit)).run tree =
      (.ok (), later)) : Grows (fun _ => False) tree later := by
  unfold makeParent at made
  cases inside : path.parent? with
  | none =>
      rw [inside] at made
      obtain ⟨-, rfl⟩ := Prod.mk.inj made
      exact .refl _ tree
  | some parent =>
      rw [inside] at made
      have ran := (run_change (·.makeDirectories parent) (.directory parent) tree).symm.trans made
      split at ran
      · rename_i changed makes
        obtain ⟨-, rfl⟩ := Prod.mk.inj ran
        exact grows_makeDirectories makes
      · cases ran

theorem writes_of_write
    (wrote : (artifact.write : StateM FileTree (Except OutputFault Unit)).run tree =
      (.ok (), later)) : Writes artifact.path artifact.bytes tree later := by
  obtain ⟨middle, made, wrote⟩ := exists_middle_of_run wrote
  have ran := (run_change (·.write artifact.path artifact.bytes)
    (.file artifact.path) middle).symm.trans wrote
  split at ran
  · rename_i changed writes
    obtain ⟨-, rfl⟩ := Prod.mk.inj ran
    have written := writes_write writes
    have before := grows_of_makeParent made
    obtain ⟨grows, located, present⟩ := written
    rw [before.working] at grows located present
    exact ⟨(before.mono fun _ impossible => impossible.elim).trans grows, located, present⟩
  · cases ran

/-- The first of several artifacts is written, and then the others are. -/
theorem WritesAll.cons (wrote : WritesAll (artifact :: artifacts) tree later) :
    ∃ middle, Writes artifact.path artifact.bytes tree middle ∧ WritesAll artifacts middle later := by
  unfold WritesAll writeAll at wrote
  obtain ⟨middle, first, others⟩ := exists_middle_of_run wrote
  exact ⟨middle, writes_of_write first, others⟩

/-- Writing artifacts keeps a file where each of them that leads to it has its bytes. -/
theorem WritesAll.keeps {names : List String} {bytes : List UInt8}
    (wrote : WritesAll artifacts tree later) (present : tree.node? names = some (.file bytes))
    (alike : ∀ artifact ∈ artifacts, artifact.place tree.working = names →
      artifact.bytes = bytes) :
    later.node? names = some (.file bytes) := by
  induction artifacts generalizing tree with
  | nil =>
      obtain ⟨-, rfl⟩ := Prod.mk.inj wrote
      exact present
  | cons artifact artifacts ih =>
      obtain ⟨middle, writes, others⟩ := wrote.cons
      rw [List.forall_mem_cons, ← writes.grows.working] at alike
      refine ih others ?_ alike.2
      rw [writes.grows.working] at alike
      by_cases here : artifact.place tree.working = names
      · rw [← here, ← alike.1 here]
        exact writes.present
      · exact writes.grows.files names bytes (fun same => here same.symm) present

theorem WritesAll.grows (wrote : WritesAll artifacts tree later) :
    Grows (fun names => ∃ artifact ∈ artifacts, names = artifact.place tree.working) tree later := by
  induction artifacts generalizing tree with
  | nil =>
      obtain ⟨-, rfl⟩ := Prod.mk.inj wrote
      exact .refl _ tree
  | cons artifact artifacts ih =>
      obtain ⟨middle, writes, others⟩ := wrote.cons
      have rest := ih others
      rw [writes.grows.working] at rest
      refine (writes.grows.mono fun names here => ?_).trans (rest.mono fun names there => ?_)
      · exact ⟨artifact, List.mem_cons_self, here⟩
      · obtain ⟨other, inside, there⟩ := there
        exact ⟨other, List.mem_cons_of_mem _ inside, there⟩

/-- Of all artifacts that lead to one place, what the last one holds is there in the end. -/
theorem read_of_writesAll {before others : List Artifact}
    (wrote : WritesAll (before ++ artifact :: others) tree later)
    (alike : ∀ other ∈ others, other.place tree.working = artifact.place tree.working →
      other.bytes = artifact.bytes) :
    later.read artifact.path = .ok artifact.bytes := by
  induction before generalizing tree with
  | nil =>
      obtain ⟨middle, writes, wrote⟩ := wrote.cons
      refine read_of_node? (wrote.grows.locate writes.located) (wrote.keeps writes.present ?_)
      rwa [writes.grows.working]
  | cons first before ih =>
      obtain ⟨middle, writes, wrote⟩ := wrote.cons
      rw [← writes.grows.working] at alike
      exact ih wrote alike

end Artifact

end SheetCompiler

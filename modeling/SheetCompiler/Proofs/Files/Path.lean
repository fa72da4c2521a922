import SheetCompiler.Path
import SheetCompiler.Proofs.Text.Pieces

/-!
# Where paths lead

The names that a path leads to, when all that it passes is there. Below one directory, the
paths of different names lead to different places.
-/

set_option autoImplicit false

namespace SheetCompiler.Path

variable {names : List String} {pieces : List (List Char)} {path : Path}

/-- The names behind which the pieces of a path lead. -/
def resolve (names : List String) : List (List Char) → List String
  | [] => names
  | piece :: pieces =>
      if isIdle piece then resolve names pieces
      else if piece = above then resolve names.dropLast pieces
      else resolve (names ++ [String.ofList piece]) pieces

/-- The names behind which one more piece leads. -/
def descend (names : List String) (piece : List Char) : List String :=
  if isIdle piece then names
  else if piece = above then names.dropLast
  else names ++ [String.ofList piece]

theorem resolve_cons (piece : List Char) (pieces : List (List Char)) :
    resolve names (piece :: pieces) = resolve (descend names piece) pieces := by
  rw [resolve, descend]
  split
  · rfl
  · split <;> rfl

/-- The names that a path leads to from the root, when it is read in a directory. -/
def leadsTo (directory : List String) (path : Path) : List String :=
  resolve (if path.isAbsolute then [] else directory) path.pieces

/-- A piece that leads one directory down. -/
structure IsName (piece : List Char) : Prop where
  leads : isIdle piece = false
  down : piece ≠ above

theorem isName_of_length {piece : List Char} (long : 2 < piece.length) : IsName piece where
  leads := by
    rw [Bool.eq_false_iff]
    intro idle
    rcases Bool.or_eq_true_iff.mp idle with empty | same
    · rw [List.isEmpty_iff.mp empty] at long
      exact absurd long (by decide)
    · rw [eq_of_beq same] at long
      exact absurd long (by decide)
  down := by
    rintro rfl
    exact absurd long (by decide)

/-- A path of which every piece is a name. -/
def IsPlain (path : Path) : Prop := ∀ piece ∈ path.pieces, IsName piece

/-! ## Joined paths -/

theorem resolve_append (pieces later : List (List Char)) :
    resolve names (pieces ++ later) = resolve (resolve names pieces) later := by
  induction pieces generalizing names with
  | nil => rfl
  | cons piece pieces ih =>
      rw [List.cons_append, resolve_cons, resolve_cons]
      exact ih

theorem resolve_names (all : ∀ piece ∈ pieces, IsName piece) :
    resolve names pieces = names ++ pieces.map String.ofList := by
  induction pieces generalizing names with
  | nil => exact (List.append_nil names).symm
  | cons piece pieces ih =>
      have here := all piece List.mem_cons_self
      rw [resolve, if_neg (by rw [here.leads]; exact Bool.false_ne_true), if_neg here.down,
        ih fun other later => all other (List.mem_cons_of_mem piece later), List.append_assoc]
      rfl

theorem eq_of_pieces_eq {other : Path} (same : path.pieces = other.pieces) : path = other := by
  have separated : ∀ c, isSeparator c = true → c = '/' := fun c slash => eq_of_beq slash
  have characters : path.text.toList = other.text.toList := by
    have joined := congrArg (List.intercalate ['/']) same
    rwa [Path.pieces, Path.pieces, Text.intercalate_pieces separated,
      Text.intercalate_pieces separated] at joined
  exact congrArg Path.mk (String.toList_inj.mp characters)

/-- The pieces of a joined path end with those of what is joined to the directory. -/
theorem exists_pieces_join (directory : Path) :
    ∃ front, ∀ inner, (directory.join inner).pieces = front ++ (Path.mk inner).pieces := by
  have separator : isSeparator '/' = true := rfl
  by_cases bare : (directory.text.isEmpty || directory.text.toList.getLast? == some '/') = true
  · rcases Bool.or_eq_true_iff.mp bare with empty | ends
    · refine ⟨[], fun inner => ?_⟩
      have nothing : directory.text = "" := String.isEmpty_iff.mp empty
      rw [join, if_pos bare, nothing, String.empty_append, List.nil_append]
    · obtain ⟨front, whole⟩ := List.getLast?_eq_some_iff.mp (eq_of_beq ends)
      refine ⟨Text.pieces isSeparator front, fun inner => ?_⟩
      rw [join, if_pos bare, Path.pieces, Path.pieces, String.toList_append, whole,
        List.append_assoc, List.singleton_append, Text.pieces_append_separator separator]
  · refine ⟨directory.pieces, fun inner => ?_⟩
    rw [join, if_neg bare, Path.pieces, Path.pieces, Path.pieces, String.toList_append,
      String.toList_append, List.append_assoc]
    exact Text.pieces_append_separator separator

theorem isAbsolute_of_isPlain (plain : path.IsPlain) : path.isAbsolute = false := by
  unfold isAbsolute
  cases whole : path.text.toList with
  | nil => rfl
  | cons first rest =>
      rw [List.head?_cons, Option.any_some, Bool.eq_false_iff]
      intro separator
      have begins : [] ∈ path.pieces := by
        rw [pieces, whole, Text.pieces, if_pos separator]
        exact List.mem_cons_self
      cases (plain [] begins).leads

/-- Whether a joined path is absolute does not depend on what is joined to the directory. -/
theorem isAbsolute_join (directory : Path) {inner : String} (plain : (Path.mk inner).IsPlain) :
    (directory.join inner).isAbsolute = directory.isAbsolute := by
  have relative := isAbsolute_of_isPlain plain
  unfold isAbsolute at relative ⊢
  have start : ∃ rest, (directory.join inner).text.toList = directory.text.toList ++ rest ∧
      (directory.text.toList = [] → rest = inner.toList) := by
    by_cases bare : (directory.text.isEmpty || directory.text.toList.getLast? == some '/') = true
    · exact ⟨inner.toList, by rw [join, if_pos bare, String.toList_append], fun _ => rfl⟩
    · refine ⟨'/' :: inner.toList, ?_, fun empty => ?_⟩
      · rw [join, if_neg bare, String.toList_append, String.toList_append, List.append_assoc]
        rfl
      · rw [String.toList_eq_nil_iff.mp empty] at bare
        exact absurd rfl bare
  obtain ⟨rest, whole, bare⟩ := start
  rw [whole]
  cases front : directory.text.toList with
  | nil => rw [List.nil_append, bare front, relative, List.head?_nil, Option.any_none]
  | cons first others => rfl

/-- Plain paths that lead to one place below a directory are the same. -/
theorem eq_of_leadsTo_join {directory : Path} {inner other : String}
    (plain : (Path.mk inner).IsPlain) (plainToo : (Path.mk other).IsPlain)
    (same : (directory.join inner).leadsTo names = (directory.join other).leadsTo names) :
    inner = other := by
  obtain ⟨front, joins⟩ := exists_pieces_join directory
  rw [leadsTo, leadsTo, isAbsolute_join directory plain, isAbsolute_join directory plainToo,
    joins, joins, resolve_append, resolve_append, resolve_names plain,
    resolve_names plainToo] at same
  have names := List.append_cancel_left same
  have pieces : (Path.mk inner).pieces = (Path.mk other).pieces :=
    List.map_inj_right (fun _ _ alike => String.ofList_injective alike) |>.mp names
  exact Path.mk.inj (eq_of_pieces_eq pieces)

/-! ## Names of files -/

theorem mem_pieces_of_name {name : List Char} (named : path.name? = some name) :
    name ∈ path.pieces := by
  have last := List.mem_of_getLast? (Option.filter_eq_some_iff.mp named).1
  cases parts : path.pieces with
  | nil => exact absurd parts Text.pieces_ne_nil
  | cons first rest =>
      rw [parts] at last
      rcases List.mem_cons.mp last with rfl | later
      · exact List.mem_cons_self
      · exact List.mem_cons_of_mem first ((Text.dropEndWhile_isPrefixOf isIdle rest).sublist.mem later)

theorem mem_of_mem_splitName {name : List Char} {c : Char} (member : c ∈ (splitName name).1) :
    c ∈ name := by
  unfold splitName at member
  split at member
  · rename_i extension stem cut
    split at member
    · exact member
    · obtain ⟨-, point, -, whole⟩ := Text.cut?_eq_some cut
      rw [← List.mem_reverse, whole]
      exact List.mem_append_right _ (List.mem_cons_of_mem _ (List.mem_reverse.mp member))
  · exact member

/-- The stem of a file is a single name. -/
theorem slash_not_mem_stem {stem : String} (found : path.stem? = some stem) :
    '/' ∉ stem.toList := by
  obtain ⟨name, named, rfl⟩ := Option.map_eq_some_iff.mp found
  rw [String.toList_ofList]
  intro listed
  have kept := (Text.mem_pieces (mem_pieces_of_name named) '/' (mem_of_mem_splitName listed)).1
  cases kept

end SheetCompiler.Path

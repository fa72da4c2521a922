/-!
# Name sets

Names kept sorted and without repetition.
-/

set_option autoImplicit false

namespace SheetCompiler

structure NameSet where
  toList : List String
  deriving DecidableEq, Repr

namespace NameSet

def empty : NameSet := ⟨[]⟩

/-- Puts a name before the first larger one, unless it is there. -/
def insertSorted (name : String) : List String → List String
  | [] => [name]
  | first :: rest =>
      if name = first then first :: rest
      else if name < first then name :: first :: rest
      else first :: insertSorted name rest

def insert (names : NameSet) (name : String) : NameSet := ⟨insertSorted name names.toList⟩

def insertAll (names : NameSet) (added : List String) : NameSet := added.foldl insert names

def ofList (names : List String) : NameSet := empty.insertAll names

def contains (names : NameSet) (name : String) : Bool := names.toList.contains name

def size (names : NameSet) : Nat := names.toList.length

def isEmpty (names : NameSet) : Bool := names.toList.isEmpty

theorem mem_insertSorted {name other : String} {names : List String} :
    other ∈ insertSorted name names ↔ other = name ∨ other ∈ names := by
  fun_induction insertSorted name names with
  | case1 => simp
  | case2 => simp
  | case3 => simp
  | case4 first rest _ _ below =>
      rw [List.mem_cons, List.mem_cons, below]
      exact or_left_comm

theorem mem_insert {names : NameSet} {name other : String} :
    other ∈ (names.insert name).toList ↔ other = name ∨ other ∈ names.toList :=
  mem_insertSorted

theorem mem_insertAll {names : NameSet} {added : List String} {name : String} :
    name ∈ (names.insertAll added).toList ↔ name ∈ added ∨ name ∈ names.toList := by
  induction added generalizing names with
  | nil => simp [insertAll]
  | cons first rest ih =>
      have step : (names.insert first).insertAll rest = names.insertAll (first :: rest) := rfl
      rw [← step, ih, mem_insert, List.mem_cons]
      exact or_left_comm.trans or_assoc.symm

theorem mem_ofList {added : List String} {name : String} :
    name ∈ (ofList added).toList ↔ name ∈ added := by
  have absent : name ∉ empty.toList := List.not_mem_nil
  rw [ofList, mem_insertAll, or_iff_left absent]

end NameSet

end SheetCompiler

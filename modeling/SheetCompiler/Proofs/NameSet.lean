import Mathlib.Data.List.Nodup
import Mathlib.Data.List.Perm.Basic
import Mathlib.Data.String.Basic
import SheetCompiler.NameSet

/-!
# Order of names

Insertion keeps names sorted, so none of them occurs twice, and the order in which names are
inserted has no say in the result.
-/

set_option autoImplicit false

namespace SheetCompiler

namespace NameSet

theorem sorted_insertSorted (name : String) {names : List String}
    (sorted : names.Pairwise (· < ·)) : (insertSorted name names).Pairwise (· < ·) := by
  induction names with
  | nil => simp [insertSorted]
  | cons first rest ih =>
      obtain ⟨least, sorted⟩ := List.pairwise_cons.mp sorted
      unfold insertSorted
      split_ifs with same below
      · exact List.pairwise_cons.mpr ⟨least, sorted⟩
      · refine List.pairwise_cons.mpr ⟨?_, List.pairwise_cons.mpr ⟨least, sorted⟩⟩
        intro other member
        cases member with
        | head => exact below
        | tail _ later => exact below.trans (least other later)
      · have above : first < name := lt_of_le_of_ne (not_lt.mp below) (Ne.symm same)
        refine List.pairwise_cons.mpr ⟨?_, ih sorted⟩
        intro other member
        rcases mem_insertSorted.mp member with rfl | later
        · exact above
        · exact least other later

theorem sorted_insertAll (added : List String) {names : NameSet}
    (sorted : names.toList.Pairwise (· < ·)) : (names.insertAll added).toList.Pairwise (· < ·) := by
  induction added generalizing names with
  | nil => exact sorted
  | cons first rest ih =>
      have inserted : (names.insert first).toList.Pairwise (· < ·) :=
        sorted_insertSorted first sorted
      exact ih inserted

theorem sorted_ofList (added : List String) : (ofList added).toList.Pairwise (· < ·) :=
  sorted_insertAll added .nil

theorem ofList_concat (names : List String) (name : String) :
    ofList (names ++ [name]) = (ofList names).insert name :=
  List.foldl_concat ..

theorem nodup_ofList (added : List String) : (ofList added).toList.Nodup :=
  (sorted_ofList added).imp ne_of_lt

theorem insertSorted_comm (name other : String) (names : List String) :
    insertSorted name (insertSorted other names) =
      insertSorted other (insertSorted name names) := by
  -- by the order of the two names and the first one
  induction names with
  | nil => grind [insertSorted]
  | cons first rest ih => grind [insertSorted]

theorem insertAll_perm (names : NameSet) {added others : List String} (perm : added.Perm others) :
    names.insertAll added = names.insertAll others := by
  have swaps : RightCommutative insert :=
    ⟨fun names name other => congrArg NameSet.mk (insertSorted_comm other name names.toList)⟩
  exact perm.foldl_eq names

end NameSet

end SheetCompiler

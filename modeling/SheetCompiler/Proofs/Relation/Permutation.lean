import Mathlib.Data.List.Perm.Basic
import Mathlib.Data.String.Basic
import SheetCompiler.Proofs.NameSet
import SheetCompiler.Relation.Graph

/-!
# Permuted relations

The cycle search sees the relations of a graph through its tables and their targets only.
Both are kept sorted, so the order in which relations were added has no say in the search.
-/

set_option autoImplicit false

namespace SheetCompiler

namespace RelationGraph

variable {graph other : RelationGraph}

mutual

theorem visit_congr (targets : graph.targets = other.targets) (fuel : Nat) (node : String)
    (path : List String) (search : Search) :
    graph.visit fuel node path search = other.visit fuel node path search := by
  cases fuel with
  | zero => rw [visit, visit]
  | succ fuel =>
      rw [visit, visit, targets]
      exact follow_congr targets fuel _ _ _
termination_by (fuel, 0)

theorem follow_congr (targets : graph.targets = other.targets) (fuel : Nat) (nodes : List String)
    (path : List String) (search : Search) :
    graph.follow fuel nodes path search = other.follow fuel nodes path search := by
  cases nodes with
  | nil => rw [follow, follow]
  | cons node nodes =>
      rw [follow, follow, visit_congr targets fuel node path search]
      exact follow_congr targets fuel nodes path _
termination_by (fuel, nodes.length + 1)

end

theorem cycles_congr (nodes : graph.nodes = other.nodes) (targets : graph.targets = other.targets) :
    graph.cycles = other.cycles := by
  have starts : graph.searchFrom = other.searchFrom := by
    funext search node
    rw [searchFrom, searchFrom, nodes, visit_congr targets]
  rw [cycles, cycles, nodes, starts]

/-- The order of its relations has no say in the cycles of a graph. -/
theorem cycles_perm (perm : graph.relations.Perm other.relations) :
    graph.cycles = other.cycles := by
  refine cycles_congr ?_ (funext fun node => ?_)
  · exact NameSet.insertAll_perm _ (perm.flatMap_right _)
  · exact NameSet.insertAll_perm _ ((perm.filter _).map _)

end RelationGraph

end SheetCompiler

import SheetCompiler.NameSet
import SheetCompiler.Relation

/-!
# Relation graphs

The directed graph of tables and their references, and the search for cycles in
it. The search goes depth first through the tables in sorted order. Each time an
edge leads back to a table on the current path, it reports the part of the path
from that table on, closed by the table itself.
-/

set_option autoImplicit false

namespace SheetCompiler

/-- Relations in the order in which they were added. -/
structure RelationGraph where
  relations : List Relation
  deriving DecidableEq, Repr

namespace RelationGraph

def empty : RelationGraph := ⟨[]⟩

def add (graph : RelationGraph) (relation : Relation) : RelationGraph :=
  ⟨graph.relations ++ [relation]⟩

/-- The tables at either end of a relation. -/
def nodes (graph : RelationGraph) : NameSet :=
  .ofList (graph.relations.flatMap fun relation => [relation.source, relation.target])

/-- The tables that a table refers to. -/
def targets (graph : RelationGraph) (node : String) : NameSet :=
  .ofList ((graph.relations.filter fun relation => relation.source == node).map (·.target))

/-- The relations that lead to a table. -/
def relationsTo (graph : RelationGraph) (node : String) : List Relation :=
  graph.relations.filter fun relation => relation.target == node

/-- What the search has seen, and the cycles it has found, latest first. -/
structure Search where
  visited : List String
  found : List (List String)
  deriving DecidableEq, Repr

/-- The part of a path that starts at `node`, closed by `node`. The path is given
from its end. -/
def closedPath (node : String) (path : List String) : List String :=
  node :: ((path.takeWhile fun other => other != node).reverse ++ [node])

mutual

/-- Visits a table: marks it and follows its edges. -/
def visit (graph : RelationGraph) :
    (fuel : Nat) → (node : String) → (path : List String) → Search → Search
  | 0, _, _, search => search
  | fuel + 1, node, path, search =>
      let marked := { search with visited := node :: search.visited }
      follow graph fuel (graph.targets node).toList (node :: path) marked
termination_by fuel => (fuel, 0)

/-- Follows edges to the given tables from the end of a path. -/
def follow (graph : RelationGraph) (fuel : Nat) :
    (targets : List String) → (path : List String) → Search → Search
  | [], _, search => search
  | target :: targets, path, search =>
      let search :=
        if path.contains target then
          { search with found := closedPath target path :: search.found }
        else if search.visited.contains target then search
        else visit graph fuel target path search
      follow graph fuel targets path search
termination_by targets => (fuel, targets.length + 1)

end

/-- Starts at every table that no earlier start has reached. -/
def searchFrom (graph : RelationGraph) (search : Search) (node : String) : Search :=
  if search.visited.contains node then search
  else visit graph graph.nodes.size node [] search

/-- The cycles in the order in which the search finds them. The path of the
search never repeats a table, so the number of tables bounds its depth. -/
def cycles (graph : RelationGraph) : List (List String) :=
  (graph.nodes.toList.foldl graph.searchFrom ⟨[], []⟩).found.reverse

end RelationGraph

end SheetCompiler

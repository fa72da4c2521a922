import Mathlib.Data.List.Chain
import Mathlib.Data.List.Infix
import SheetCompiler.Relation.Graph

/-!
# Walks in relation graphs

The edges of a relation graph, its cycles, and the paths that the search reports.
A cycle is any closed walk, so a table that refers to itself has one of a single
edge, and a cycle may pass a table more than once.
-/

set_option autoImplicit false

namespace SheetCompiler

namespace RelationGraph

def ofRelations (relations : List Relation) : RelationGraph := relations.foldl add empty

theorem foldl_add (relations : List Relation) (graph : RelationGraph) :
    relations.foldl add graph = ⟨graph.relations ++ relations⟩ := by
  induction relations generalizing graph with
  | nil => simp
  | cons relation relations ih =>
      rw [List.foldl_cons, ih, add, List.append_assoc, List.singleton_append]

theorem relations_ofRelations (relations : List Relation) :
    (ofRelations relations).relations = relations := by
  rw [ofRelations, foldl_add]
  rfl

def HasEdge (graph : RelationGraph) (source target : String) : Prop :=
  ∃ relation ∈ graph.relations, relation.source = source ∧ relation.target = target

/-- A walk along edges that ends where it starts. -/
structure IsCycle (graph : RelationGraph) (walk : List String) : Prop where
  nonTrivial : 2 ≤ walk.length
  closed : walk.head? = walk.getLast?
  chain : walk.IsChain graph.HasEdge

def IsAcyclic (graph : RelationGraph) : Prop := ∀ walk, ¬ graph.IsCycle walk

theorem HasEdge.source_mem {graph : RelationGraph} {source target : String}
    (edge : graph.HasEdge source target) : source ∈ graph.nodes.toList := by
  obtain ⟨relation, member, rfl, rfl⟩ := edge
  exact NameSet.mem_ofList.mpr (List.mem_flatMap.mpr ⟨relation, member, List.mem_cons_self⟩)

theorem HasEdge.target_mem {graph : RelationGraph} {source target : String}
    (edge : graph.HasEdge source target) : target ∈ graph.nodes.toList := by
  obtain ⟨relation, member, rfl, rfl⟩ := edge
  exact NameSet.mem_ofList.mpr (List.mem_flatMap.mpr ⟨relation, member, by simp⟩)

theorem mem_targets {graph : RelationGraph} {source target : String} :
    target ∈ (graph.targets source).toList ↔ graph.HasEdge source target := by
  simp only [targets, NameSet.mem_ofList, List.mem_map, List.mem_filter, beq_iff_eq, HasEdge,
    and_assoc]

/-! ## Reported paths -/

def ClosedIn (paths : List (List String)) (source target : String) : Prop :=
  ∃ path ∈ paths, [source, target] <:+ path

theorem ClosedIn.mono {paths more : List (List String)} (extends_ : paths ⊆ more)
    {source target : String} (closed : ClosedIn paths source target) :
    ClosedIn more source target := by
  obtain ⟨path, member, ending⟩ := closed
  exact ⟨path, extends_ member, ending⟩

theorem reverse_closedPath (node : String) (path : List String) :
    (closedPath node path).reverse =
      node :: ((path.takeWhile fun other => other != node) ++ [node]) := by
  simp [closedPath]

/-- The part of a path up to a node on it, the node included. -/
theorem upTo_isPrefixOf {node : String} {path : List String} (member : node ∈ path) :
    (path.takeWhile fun other => other != node) ++ [node] <+: path := by
  induction path with
  | nil => cases member
  | cons first rest ih =>
      by_cases same : first = node
      · subst same
        simp
      · have later : node ∈ rest := (List.mem_cons.mp member).resolve_left (Ne.symm same)
        have kept : (first != node) = true := bne_iff_ne.mpr same
        have taken := List.takeWhile_cons_of_pos (p := fun other => other != node) (l := rest) kept
        rw [taken, List.cons_append]
        exact (List.prefix_cons_inj first).mpr (ih later)

/-- The reported path ends with the edge that led back to its start. -/
theorem closing_edge_suffix {node target : String} {path : List String}
    (member : target ∈ node :: path) :
    [node, target] <:+ closedPath target (node :: path) := by
  rw [← List.reverse_prefix, reverse_closedPath]
  have upTo := upTo_isPrefixOf member
  cases shape : ((node :: path).takeWhile fun other => other != target) ++ [target] with
  | nil => simp at shape
  | cons first rest =>
      rw [shape] at upTo
      obtain ⟨rfl, -⟩ := List.cons_prefix_cons.mp upTo
      exact ⟨rest, by simp⟩

theorem closing_edge_unique {path : List String} {source target source' target' : String}
    (one : [source, target] <:+ path) (other : [source', target'] <:+ path) :
    source = source' ∧ target = target' := by
  have same : [source, target] = [source', target'] :=
    (List.suffix_of_suffix_length_le one other (by simp)).eq_of_length (by simp)
  simpa using same

/-- The reported path is a cycle when the path of the search follows edges. -/
theorem isCycle_closedPath {graph : RelationGraph} {node target : String} {path : List String}
    (chain : (node :: path).IsChain fun later earlier => graph.HasEdge earlier later)
    (edge : graph.HasEdge node target) (member : target ∈ node :: path) :
    graph.IsCycle (closedPath target (node :: path)) := by
  constructor
  · simp [closedPath]
  · rw [closedPath, ← List.cons_append, List.getLast?_concat]
    rfl
  · rw [← List.reverse_reverse (closedPath target (node :: path)), List.isChain_reverse,
      reverse_closedPath]
    have extended : (target :: node :: path).IsChain fun later earlier =>
        graph.HasEdge earlier later := chain.cons_cons edge
    exact extended.prefix ((List.prefix_cons_inj target).mpr (upTo_isPrefixOf member))

end RelationGraph

end SheetCompiler

import Mathlib.Data.List.Nodup
import Mathlib.Data.List.TakeWhile
import Mathlib.Data.String.Basic
import SheetCompiler.Proofs.NameSet
import SheetCompiler.Proofs.Relation.CycleSearch

/-!
# Soundness of the cycle search

The search as a relation without fuel, one rule for each thing that an edge can lead to.
The search always has an end, every path that it reports is a cycle that repeats no table but
the one it closes with, and no edge closes two of them, because no edge is followed twice.
-/

set_option autoImplicit false

namespace SheetCompiler

namespace RelationGraph

variable {graph : RelationGraph} {targets path : List String} {search after : Search}

/-! ## The search without fuel -/

/-- Following edges to `targets` from the end of a path. Starting at a table is following an
edge to it from the empty path. -/
inductive Follows (graph : RelationGraph) : (targets path : List String) → Search → Search → Prop
    where
  | done {path : List String} {search : Search} : Follows graph [] path search search
  | back {target : String} {targets path : List String} {search after : Search} :
      target ∈ path →
      Follows graph targets path
        { search with found := closedPath target path :: search.found } after →
      Follows graph (target :: targets) path search after
  | seen {target : String} {targets path : List String} {search after : Search} :
      target ∉ path → target ∈ search.visited →
      Follows graph targets path search after →
      Follows graph (target :: targets) path search after
  | enter {target : String} {targets path : List String} {search middle after : Search} :
      target ∉ path → target ∉ search.visited →
      Follows graph (graph.targets target).toList (target :: path)
        { search with visited := target :: search.visited } middle →
      Follows graph targets path middle after →
      Follows graph (target :: targets) path search after

theorem Follows.unique {other : Search} (follows : graph.Follows targets path search after)
    (again : graph.Follows targets path search other) : other = after := by
  induction follows generalizing other with
  | done =>
      cases again
      rfl
  | back onPath _ ih =>
      cases again with
      | back _ rest => exact ih rest
      | seen off => exact absurd onPath off
      | enter off => exact absurd onPath off
  | seen off visited _ ih =>
      cases again with
      | back onPath => exact absurd onPath off
      | seen _ _ rest => exact ih rest
      | enter _ fresh => exact absurd visited fresh
  | enter off fresh _ _ inside rest =>
      cases again with
      | back onPath => exact absurd onPath off
      | seen _ visited => exact absurd visited fresh
      | enter _ _ entered later =>
          cases inside entered
          exact rest later

/-- Where the search may go from the end of a path: to what its last table refers to, and to
any table from the empty path. -/
def Leads (graph : RelationGraph) (path targets : List String) : Prop :=
  ∀ target ∈ targets, target ∈ graph.nodes.toList ∧
    ∀ node ∈ path.head?, graph.HasEdge node target

theorem leads_targets (node : String) (path : List String) :
    graph.Leads (node :: path) (graph.targets node).toList := by
  intro target member
  have edge := mem_targets.mp member
  refine ⟨edge.target_mem, ?_⟩
  rintro _ ⟨⟩
  exact edge

theorem IsPath.enter {target : String} (isPath : graph.IsPath path)
    (leads : graph.Leads path (target :: targets)) (fresh : target ∉ path) :
    graph.IsPath (target :: path) := by
  obtain ⟨known, edge⟩ := leads target List.mem_cons_self
  cases path with
  | nil => exact ⟨by simp, by simpa using known, .singleton _⟩
  | cons node path => exact isPath.extend (edge node rfl) fresh

mutual

theorem visit_follows {fuel : Nat} {node : String} {path : List String} (search : Search)
    (isPath : graph.IsPath (node :: path)) (enough : graph.nodes.size ≤ path.length + fuel) :
    graph.Follows (graph.targets node).toList (node :: path)
      { search with visited := node :: search.visited } (graph.visit fuel node path search) := by
  cases fuel with
  | zero =>
      have short := isPath.length_le
      simp at short
      omega
  | succ fuel =>
      rw [visit]
      refine follow_follows _ isPath (leads_targets node path) ?_
      rw [List.length_cons]
      omega
termination_by (fuel, 0)

/-- The fuel lasts as long as it makes up for the tables that are not on the path. -/
theorem follow_follows {fuel : Nat} {targets path : List String} (search : Search)
    (isPath : graph.IsPath path) (leads : graph.Leads path targets)
    (enough : graph.nodes.size ≤ path.length + fuel) :
    graph.Follows targets path search (graph.follow fuel targets path search) := by
  cases targets with
  | nil =>
      rw [follow]
      exact .done
  | cons target targets =>
      have others : graph.Leads path targets :=
        fun other member => leads other (List.mem_cons_of_mem _ member)
      simp only [follow, List.contains_iff_mem]
      split_ifs with onPath visited
      · exact .back onPath (follow_follows _ isPath others enough)
      · exact .seen onPath visited (follow_follows _ isPath others enough)
      · exact .enter onPath visited (visit_follows search (isPath.enter leads onPath) enough)
          (follow_follows _ isPath others enough)
termination_by (fuel, targets.length + 1)

end

theorem foldl_searchFrom (graph : RelationGraph) (starts : List String) (search : Search) :
    starts.foldl graph.searchFrom search = graph.follow graph.nodes.size starts [] search := by
  induction starts generalizing search with
  | nil => rw [List.foldl_nil, follow]
  | cons start starts ih =>
      rw [List.foldl_cons, follow, ih]
      rfl

theorem isPath_nil (graph : RelationGraph) : graph.IsPath [] :=
  ⟨.nil, List.nil_subset _, .nil⟩

theorem leads_nodes (graph : RelationGraph) : graph.Leads [] graph.nodes.toList :=
  fun target member => ⟨member, by simp⟩

/-- The search reaches its end, and only one. -/
theorem exists_follows (graph : RelationGraph) :
    ∃ after, (∀ other, graph.Follows graph.nodes.toList [] ⟨[], []⟩ other ↔ other = after) ∧
      graph.cycles = after.found.reverse := by
  have follows := follow_follows ⟨[], []⟩ graph.isPath_nil graph.leads_nodes
    (Nat.le_add_left graph.nodes.size 0)
  refine ⟨_, fun other => ⟨follows.unique, ?_⟩, ?_⟩
  · rintro rfl
    exact follows
  · rw [cycles, foldl_searchFrom]

/-! ## Simple cycles -/

structure IsSimpleCycle (graph : RelationGraph) (walk : List String) : Prop
    extends graph.IsCycle walk where
  simple : walk.dropLast.Nodup

theorem isSimpleCycle_closedPath {node target : String} (isPath : graph.IsPath (node :: path))
    (edge : graph.HasEdge node target) (back : target ∈ node :: path) :
    graph.IsSimpleCycle (closedPath target (node :: path)) where
  toIsCycle := isCycle_closedPath isPath.chain edge back
  simple := by
    rw [closedPath, ← List.cons_append, List.dropLast_concat]
    refine List.nodup_cons.mpr ⟨?_, ?_⟩
    · intro member
      have kept := List.mem_takeWhile_imp (List.mem_reverse.mp member)
      simp at kept
    · exact List.nodup_reverse.mpr (isPath.nodup.sublist (List.takeWhile_sublist _))

/-- The path of the search is a simple path at every point, so what it closes is a simple
cycle. -/
theorem Follows.simpleCycles (follows : graph.Follows targets path search after)
    (isPath : graph.IsPath path) (leads : graph.Leads path targets)
    (simple : ∀ cycle ∈ search.found, graph.IsSimpleCycle cycle) :
    ∀ cycle ∈ after.found, graph.IsSimpleCycle cycle := by
  induction follows with
  | done => exact simple
  | @back target targets path search after back _ ih =>
      refine ih isPath (fun other member => leads other (List.mem_cons_of_mem _ member)) ?_
      intro cycle member
      cases member with
      | tail _ earlier => exact simple cycle earlier
      | head =>
          cases path with
          | nil => cases back
          | cons node path =>
              have edge := (leads target List.mem_cons_self).2 node rfl
              exact isSimpleCycle_closedPath isPath edge back
  | seen _ _ _ ih =>
      exact ih isPath (fun other member => leads other (List.mem_cons_of_mem _ member)) simple
  | @enter target targets path search middle after off _ _ _ inside rest =>
      have found := inside (isPath.enter leads off) (leads_targets target path) simple
      exact rest isPath (fun other member => leads other (List.mem_cons_of_mem _ member)) found

/-! ## Closing edges -/

/-- No edge closes two of the reported paths, and those that close one start at visited
tables. -/
structure ClosesOnce (search : Search) : Prop where
  visited : ∀ source target, ClosedIn search.found source target → source ∈ search.visited
  once : search.found.Pairwise fun one other =>
    ∀ source target, [source, target] <:+ one → ¬ [source, target] <:+ other

theorem closedIn_cons_closedPath {node target : String} {found : List (List String)}
    (back : target ∈ node :: path) {source other : String} :
    ClosedIn (closedPath target (node :: path) :: found) source other ↔
      (source = node ∧ other = target) ∨ ClosedIn found source other := by
  have closing : [source, other] <:+ closedPath target (node :: path) ↔
      source = node ∧ other = target := by
    constructor
    · intro ending
      simpa using closing_edge_unique ending (closing_edge_suffix back)
    · rintro ⟨rfl, rfl⟩
      exact closing_edge_suffix back
  simp [ClosedIn, closing]

theorem ClosesOnce.report {node target : String} (closes : ClosesOnce search)
    (back : target ∈ node :: path) (visited : node ∈ search.visited)
    (ahead : ¬ ClosedIn search.found node target) :
    ClosesOnce { search with found := closedPath target (node :: path) :: search.found } where
  visited source other closed := by
    rcases (closedIn_cons_closedPath back).mp closed with ⟨rfl, -⟩ | earlier
    · exact visited
    · exact closes.visited source other earlier
  once := by
    refine List.pairwise_cons.mpr ⟨?_, closes.once⟩
    intro earlier member source other here there
    obtain ⟨rfl, rfl⟩ := closing_edge_unique here (closing_edge_suffix back)
    exact ahead ⟨earlier, member, there⟩

/-- What a part of the search adds: it visits more tables, and the edges that it closes paths
with are its own or start at a table that it has entered. -/
structure Closes (targets path : List String) (search after : Search) : Prop where
  closesOnce : ClosesOnce after
  visited : search.visited ⊆ after.visited
  own : ∀ source ∈ search.visited, ∀ target, ClosedIn after.found source target →
    ClosedIn search.found source target ∨ (source ∈ path.head? ∧ target ∈ targets)

theorem Follows.closes (follows : graph.Follows targets path search after)
    (onPath : ∀ node ∈ path, node ∈ search.visited) (distinct : targets.Nodup)
    (ahead : ∀ node ∈ path.head?, ∀ target ∈ targets, ¬ ClosedIn search.found node target)
    (closes : ClosesOnce search) : Closes targets path search after := by
  induction follows with
  | done => exact ⟨closes, List.Subset.refl _, fun _ _ _ closed => .inl closed⟩
  | @back target targets path search after back _ ih =>
      obtain ⟨apart, distinct⟩ := List.nodup_cons.mp distinct
      cases path with
      | nil => cases back
      | cons node path =>
          have next := ih onPath distinct
            (by
              rintro _ ⟨⟩ other member closed
              rcases (closedIn_cons_closedPath back).mp closed with ⟨-, rfl⟩ | earlier
              · exact apart member
              · exact ahead node rfl other (List.mem_cons_of_mem _ member) earlier)
            (closes.report back (onPath node List.mem_cons_self)
              (ahead node rfl target List.mem_cons_self))
          refine ⟨next.closesOnce, next.visited, fun source seen other closed => ?_⟩
          rcases next.own source seen other closed with reported | ⟨same, later⟩
          · rcases (closedIn_cons_closedPath back).mp reported with ⟨rfl, rfl⟩ | earlier
            · exact .inr ⟨rfl, List.mem_cons_self⟩
            · exact .inl earlier
          · exact .inr ⟨same, List.mem_cons_of_mem _ later⟩
  | seen _ _ _ ih =>
      have next := ih onPath (List.nodup_cons.mp distinct).2
        (fun node last other member => ahead node last other (List.mem_cons_of_mem _ member)) closes
      refine ⟨next.closesOnce, next.visited, fun source seen other closed => ?_⟩
      exact (next.own source seen other closed).imp_right
        fun ⟨same, later⟩ => ⟨same, List.mem_cons_of_mem _ later⟩
  | @enter target targets path search middle after off fresh _ _ inside rest =>
      have entered := inside
        (by
          intro node member
          cases member with
          | head => exact List.mem_cons_self
          | tail _ earlier => exact List.mem_cons_of_mem _ (onPath node earlier))
        (NameSet.nodup_ofList _)
        (by
          rintro _ ⟨⟩ other _ closed
          exact fresh (closes.visited _ _ closed))
        ⟨fun source other closed => List.mem_cons_of_mem _ (closes.visited source other closed),
          closes.once⟩
      -- a table that was visited before is not the entered one, so its edges were not followed
      have kept : ∀ source ∈ search.visited, ∀ other, ClosedIn middle.found source other →
          ClosedIn search.found source other := by
        intro source seen other closed
        rcases entered.own source (List.mem_cons_of_mem _ seen) other closed with earlier | own
        · exact earlier
        · cases own.1
          exact absurd seen fresh
      have wider : search.visited ⊆ middle.visited :=
        fun node seen => entered.visited (List.mem_cons_of_mem _ seen)
      have next := rest (fun node member => wider (onPath node member))
        (List.nodup_cons.mp distinct).2
        (fun node last other member closed =>
          ahead node last other (List.mem_cons_of_mem _ member)
            (kept node (onPath node (List.mem_of_mem_head? last)) other closed))
        entered.closesOnce
      refine ⟨next.closesOnce, List.Subset.trans wider next.visited, ?_⟩
      intro source seen other closed
      rcases next.own source (wider seen) other closed with earlier | ⟨same, later⟩
      · exact .inl (kept source seen other earlier)
      · exact .inr ⟨same, List.mem_cons_of_mem _ later⟩

/-! ## Reported paths -/

/-- The search for cycles ends, on every list of relations. Each path that it reports starts
and ends at one table, repeats no other, and goes from table to table by relations of the
list; no two of them are closed by the same edge. -/
theorem cycles_sound (relations : List Relation) :
    let graph := ofRelations relations
    (∃ after, (∀ other, graph.Follows graph.nodes.toList [] ⟨[], []⟩ other ↔ other = after) ∧
      graph.cycles = after.found.reverse) ∧
    (∀ path ∈ graph.cycles,
      2 ≤ path.length ∧ path.head? = path.getLast? ∧ path.dropLast.Nodup ∧
        path.IsChain fun source target =>
          ∃ relation ∈ relations, relation.source = source ∧ relation.target = target) ∧
    graph.cycles.Pairwise fun one other =>
      ∀ source target, [source, target] <:+ one → ¬ [source, target] <:+ other := by
  intro graph
  obtain ⟨after, ends, same⟩ := exists_follows graph
  have follows := (ends after).mpr rfl
  refine ⟨⟨after, ends, same⟩, ?_, ?_⟩
  · intro path member
    rw [same] at member
    have cycle := follows.simpleCycles graph.isPath_nil graph.leads_nodes (List.forall_mem_nil _)
      path (List.mem_reverse.mp member)
    refine ⟨cycle.nonTrivial, cycle.closed, cycle.simple, ?_⟩
    refine cycle.chain.imp fun source target edge => ?_
    simpa only [graph, HasEdge, relations_ofRelations] using edge
  · have nothing : ClosesOnce ⟨[], []⟩ := ⟨by simp [ClosedIn], .nil⟩
    have closes := follows.closes (List.forall_mem_nil _) (NameSet.nodup_ofList _) (by simp) nothing
    rw [same, List.pairwise_reverse]
    exact closes.closesOnce.once.imp fun apart source target there here =>
      apart source target here there

/-- A cycle of two tables is reported from the one that comes first, and a table that refers to
itself has a cycle of its own. -/
theorem cycles_sound_mutual :
    let relations : List Relation := [⟨"Casts", "Buff", "Skill", true⟩,
      ⟨"Next", "Item", "Item", true⟩, ⟨"Gives", "Skill", "Buff", false⟩]
    let path := ["Buff", "Skill", "Buff"]
    (ofRelations relations).cycles = [path, ["Item", "Item"]] ∧ path.dropLast.Nodup ∧
      path.IsChain fun source target =>
        ∃ relation ∈ relations, relation.source = source ∧ relation.target = target := by
  intro relations path
  have reported : (ofRelations relations).cycles = [path, ["Item", "Item"]] := by cbv
  have member : path ∈ (ofRelations relations).cycles := by
    rw [reported]
    exact List.mem_cons_self
  exact ⟨reported, ((cycles_sound relations).2.1 path member).2.2⟩

end RelationGraph

end SheetCompiler

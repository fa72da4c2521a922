import Mathlib.Data.List.Perm.Subperm
import SheetCompiler.Proofs.Relation.Walk

/-!
# Completeness of the cycle search

The search leaves the tables in a finishing order: every edge that does not close
a reported path leads to a table that was left before its source. A cycle cannot
go down in that order forever, so one of its edges closes a reported path.
-/

set_option autoImplicit false

namespace SheetCompiler.RelationGraph

variable {graph : RelationGraph}

/-! ## Finishing orders -/

/-- The tables that the search has left, latest first. Each edge out of one of them
closes a reported path or leads to a table that was left before. -/
inductive Finished (graph : RelationGraph) (found : List (List String)) : List String → Prop where
  | nil : Finished graph found []
  | cons {node : String} {done : List String} :
      node ∉ done →
      (∀ target, graph.HasEdge node target → ClosedIn found node target ∨ target ∈ done) →
      Finished graph found done → Finished graph found (node :: done)

theorem Finished.mono {found more : List (List String)} {done : List String}
    (kept : found ⊆ more) (finished : Finished graph found done) :
    Finished graph more done := by
  induction finished with
  | nil => exact .nil
  | cons fresh edges _ ih =>
      exact .cons fresh (fun target edge => (edges target edge).imp_left (ClosedIn.mono kept)) ih

/-- Edges that close no reported path go strictly down in the finishing order. -/
theorem Finished.descends {found : List (List String)} {done : List String}
    (finished : Finished graph found done) {source target : String}
    (member : source ∈ done) (edge : graph.HasEdge source target)
    (unclosed : ¬ ClosedIn found source target) :
    target ∈ done ∧ done.idxOf source < done.idxOf target := by
  induction finished with
  | nil => cases member
  | @cons node done fresh edges _ ih =>
      by_cases same : source = node
      · subst same
        have left : target ∈ done := (edges target edge).resolve_left unclosed
        have different : source ≠ target := fun equal => fresh (equal ▸ left)
        rw [List.idxOf_cons_self, List.idxOf_cons_ne _ different]
        exact ⟨List.mem_cons_of_mem _ left, Nat.succ_pos _⟩
      · obtain ⟨left, below⟩ := ih ((List.mem_cons.mp member).resolve_left same)
        have different : node ≠ target := fun equal => fresh (equal ▸ left)
        rw [List.idxOf_cons_ne _ (Ne.symm same), List.idxOf_cons_ne _ different]
        exact ⟨List.mem_cons_of_mem _ left, Nat.succ_lt_succ below⟩

/-- A cycle through finished tables has an edge that closes a reported path. -/
theorem Finished.closes_cycle {found : List (List String)} {done walk : List String}
    (finished : Finished graph found done) (covers : ∀ node ∈ graph.nodes.toList, node ∈ done)
    (cycle : graph.IsCycle walk) :
    ∃ source target, [source, target] <:+: walk ∧ ClosedIn found source target := by
  by_contra none
  have unclosed : ∀ source target, [source, target] <:+: walk → ¬ ClosedIn found source target :=
    fun source target on closed => none ⟨source, target, on, closed⟩
  have descending : (walk.map done.idxOf).IsChain (· < ·) := by
    rw [List.isChain_map, List.isChain_iff_forall_rel_of_append_cons_cons]
    rintro source target before after rfl
    have on : [source, target] <:+: before ++ source :: target :: after := ⟨before, after, by simp⟩
    have pair := cycle.chain.infix on
    have edge : graph.HasEdge source target := List.isChain_pair.mp pair
    exact (finished.descends (covers _ edge.source_mem) edge (unclosed _ _ on)).2
  -- the walk returns to its start, so the order would lead from it to itself
  cases walk with
  | nil => exact absurd cycle.nonTrivial (by simp)
  | cons first rest =>
      have last : first ∈ rest := by
        have long := cycle.nonTrivial
        cases rest with
        | nil => simp at long
        | cons second rest =>
            have ends := cycle.closed
            rw [List.head?_cons, List.getLast?_cons_cons] at ends
            exact List.mem_of_getLast? ends.symm
      rw [List.map_cons] at descending
      exact Nat.lt_irrefl _ (descending.rel_cons (List.mem_map_of_mem last))

/-! ## The search -/

/-- A path of the search, given from its end: a simple path along edges. -/
structure IsPath (graph : RelationGraph) (path : List String) : Prop where
  nodup : path.Nodup
  nodes : path ⊆ graph.nodes.toList
  chain : path.IsChain fun later earlier => graph.HasEdge earlier later

theorem IsPath.length_le {path : List String} (isPath : graph.IsPath path) :
    path.length ≤ graph.nodes.size :=
  (List.subperm_of_subset isPath.nodup isPath.nodes).length_le

theorem IsPath.extend {node target : String} {path : List String}
    (isPath : graph.IsPath (node :: path)) (edge : graph.HasEdge node target)
    (fresh : target ∉ node :: path) : graph.IsPath (target :: node :: path) where
  nodup := List.nodup_cons.mpr ⟨fresh, isPath.nodup⟩
  nodes := List.cons_subset.mpr ⟨edge.target_mem, isPath.nodes⟩
  chain := isPath.chain.cons_cons edge

/-- The search has visited the tables of its path and those that it has left, and it
has reported cycles only. -/
structure Reached (graph : RelationGraph) (path done : List String) (search : Search) : Prop where
  finished : graph.Finished search.found done
  visited : ∀ node, node ∈ search.visited ↔ node ∈ path ∨ node ∈ done
  apart : ∀ node ∈ path, node ∉ done
  cycles : ∀ cycle ∈ search.found, graph.IsCycle cycle

theorem Reached.enter {node : String} {path done : List String} {search : Search}
    (reached : graph.Reached path done search) (fresh : node ∉ search.visited) :
    graph.Reached (node :: path) done { search with visited := node :: search.visited } where
  finished := reached.finished
  visited := fun other => by
    rw [List.mem_cons, List.mem_cons, reached.visited, or_assoc]
  apart := fun other member => by
    rcases List.mem_cons.mp member with rfl | earlier
    · exact fun left => fresh ((reached.visited _).mpr (.inr left))
    · exact reached.apart other earlier
  cycles := reached.cycles

theorem Reached.leave {node : String} {path done : List String} {search : Search}
    (isPath : graph.IsPath (node :: path)) (reached : graph.Reached (node :: path) done search)
    (edges : ∀ target ∈ (graph.targets node).toList,
      ClosedIn search.found node target ∨ target ∈ done) :
    graph.Reached path (node :: done) search where
  finished :=
    .cons (reached.apart node List.mem_cons_self)
      (fun target edge => edges target (mem_targets.mpr edge)) reached.finished
  visited := fun other => by
    rw [reached.visited, List.mem_cons, List.mem_cons]
    exact or_assoc.trans or_left_comm
  apart := fun other member => by
    have onPath := List.nodup_cons.mp isPath.nodup
    rw [List.mem_cons, not_or]
    exact ⟨fun equal => onPath.1 (equal ▸ member),
      reached.apart other (List.mem_cons_of_mem _ member)⟩
  cycles := reached.cycles

theorem Reached.report {node target : String} {path done : List String} {search : Search}
    (isPath : graph.IsPath (node :: path)) (reached : graph.Reached (node :: path) done search)
    (edge : graph.HasEdge node target) (back : target ∈ node :: path) :
    graph.Reached (node :: path) done
      { search with found := closedPath target (node :: path) :: search.found } where
  finished := reached.finished.mono (List.subset_cons_self _ _)
  visited := reached.visited
  apart := reached.apart
  cycles := fun cycle member => by
    rcases List.mem_cons.mp member with rfl | earlier
    · exact isCycle_closedPath isPath.chain edge back
    · exact reached.cycles cycle earlier

/-- The search goes on: it keeps what it has left and what it has reported. -/
structure Advances (graph : RelationGraph) (path done later : List String)
    (search after : Search) : Prop where
  reached : graph.Reached path later after
  left : done ⊆ later
  found : search.found ⊆ after.found

theorem Advances.trans {path done later last : List String} {search middle after : Search}
    (first : graph.Advances path done later search middle)
    (second : graph.Advances path later last middle after) :
    graph.Advances path done last search after :=
  ⟨second.reached, List.Subset.trans first.left second.left,
    List.Subset.trans first.found second.found⟩

mutual

/-- Visiting a table leaves it. The fuel suffices as long as it makes up for the
tables that are not on the path. -/
theorem visit_advances {fuel : Nat} {node : String} {path done : List String} {search : Search}
    (isPath : graph.IsPath (node :: path)) (enough : graph.nodes.size ≤ path.length + fuel)
    (reached : graph.Reached path done search) (fresh : node ∉ search.visited) :
    ∃ later, graph.Advances path done later search (graph.visit fuel node path search) ∧
      node ∈ later := by
  cases fuel with
  | zero =>
      have short : path.length + 1 ≤ graph.nodes.size := isPath.length_le
      omega
  | succ fuel =>
      have deeper : graph.nodes.size ≤ (node :: path).length + fuel := by
        rw [List.length_cons]
        omega
      obtain ⟨later, advances, edges⟩ := follow_advances isPath deeper (reached.enter fresh)
        (fun target member => mem_targets.mp member)
      rw [visit]
      exact ⟨node :: later,
        ⟨advances.reached.leave isPath edges, List.subset_cons_of_subset _ advances.left,
          advances.found⟩, List.mem_cons_self⟩
termination_by (fuel, 0)

/-- After its edges have been followed, each of them closes a reported path or leads
to a table that the search has left. -/
theorem follow_advances {fuel : Nat} {targets : List String} {node : String}
    {path done : List String} {search : Search}
    (isPath : graph.IsPath (node :: path))
    (enough : graph.nodes.size ≤ (node :: path).length + fuel)
    (reached : graph.Reached (node :: path) done search)
    (edges : ∀ target ∈ targets, graph.HasEdge node target) :
    ∃ later, graph.Advances (node :: path) done later search
        (graph.follow fuel targets (node :: path) search) ∧
      ∀ target ∈ targets,
        ClosedIn (graph.follow fuel targets (node :: path) search).found node target ∨
          target ∈ later := by
  cases targets with
  | nil =>
      rw [follow]
      exact ⟨done, ⟨reached, List.Subset.refl _, List.Subset.refl _⟩, by simp⟩
  | cons target targets =>
      have edge : graph.HasEdge node target := edges target List.mem_cons_self
      -- one edge is followed: it closes a path, leads to a table that was left, or is visited
      obtain ⟨middle, later, advances, settled, rest⟩ : ∃ middle later,
          graph.Advances (node :: path) done later search middle ∧
            (ClosedIn middle.found node target ∨ target ∈ later) ∧
            graph.follow fuel (target :: targets) (node :: path) search =
              graph.follow fuel targets (node :: path) middle := by
        by_cases back : target ∈ node :: path
        · have report := reached.report isPath edge back
          refine ⟨_, done, ⟨report, List.Subset.refl _, List.subset_cons_self _ _⟩, .inl ?_, ?_⟩
          · exact ⟨_, List.mem_cons_self, closing_edge_suffix back⟩
          · rw [follow, if_pos (List.contains_iff_mem.mpr back)]
        · have off : ¬ (node :: path).contains target = true := mt List.contains_iff_mem.mp back
          by_cases seen : target ∈ search.visited
          · have left : target ∈ done := ((reached.visited target).mp seen).resolve_left back
            refine ⟨search, done, ⟨reached, List.Subset.refl _, List.Subset.refl _⟩, .inr left, ?_⟩
            rw [follow, if_neg off, if_pos (List.contains_iff_mem.mpr seen)]
          · obtain ⟨later, advances, left⟩ :=
              visit_advances (isPath.extend edge back) enough reached seen
            refine ⟨_, later, advances, .inr left, ?_⟩
            rw [follow, if_neg off, if_neg (mt List.contains_iff_mem.mp seen)]
      obtain ⟨last, after, others⟩ := follow_advances isPath enough advances.reached
        (fun other member => edges other (List.mem_cons_of_mem _ member))
      rw [rest]
      refine ⟨last, advances.trans after, ?_⟩
      intro other member
      rcases List.mem_cons.mp member with rfl | later
      · exact settled.imp (ClosedIn.mono after.found) (fun left => after.left left)
      · exact others other later
termination_by (fuel, targets.length + 1)

end

/-! ## Restarts -/

theorem searchFrom_advances {start : String} {done : List String} {search : Search}
    (node : start ∈ graph.nodes.toList) (reached : graph.Reached [] done search) :
    ∃ later, graph.Advances [] done later search (graph.searchFrom search start) ∧
      start ∈ later := by
  by_cases seen : start ∈ search.visited
  · have left : start ∈ done := ((reached.visited start).mp seen).resolve_left List.not_mem_nil
    rw [searchFrom, if_pos (List.contains_iff_mem.mpr seen)]
    exact ⟨done, ⟨reached, List.Subset.refl _, List.Subset.refl _⟩, left⟩
  · have isPath : graph.IsPath [start] := ⟨by simp, by simpa using node, .singleton _⟩
    rw [searchFrom, if_neg (mt List.contains_iff_mem.mp seen)]
    exact visit_advances isPath (Nat.le_add_left _ _) reached seen

theorem foldl_searchFrom_advances {starts done : List String} {search : Search}
    (nodes : starts ⊆ graph.nodes.toList) (reached : graph.Reached [] done search) :
    ∃ later, graph.Advances [] done later search
        (starts.foldl graph.searchFrom search) ∧ starts ⊆ later := by
  induction starts generalizing done search with
  | nil => exact ⟨done, ⟨reached, List.Subset.refl _, List.Subset.refl _⟩, List.nil_subset _⟩
  | cons start starts ih =>
      have known := List.cons_subset.mp nodes
      obtain ⟨later, first, left⟩ := searchFrom_advances known.1 reached
      obtain ⟨last, rest, others⟩ := ih known.2 first.reached
      exact ⟨last, first.trans rest, List.cons_subset.mpr ⟨rest.left left, others⟩⟩

/-- At its end the search has left every table. -/
theorem exists_reached_cycles (graph : RelationGraph) :
    ∃ done search, graph.Reached [] done search ∧ graph.nodes.toList ⊆ done ∧
      graph.cycles = search.found.reverse := by
  have start : graph.Reached [] [] ⟨[], []⟩ := ⟨.nil, by simp, by simp, by simp⟩
  obtain ⟨done, advances, covers⟩ := foldl_searchFrom_advances (List.Subset.refl _) start
  exact ⟨done, _, advances.reached, covers, rfl⟩

/-! ## Reported cycles -/

/-- A reported path ends with an edge of a walk. -/
def Represents (graph : RelationGraph) (path walk : List String) : Prop :=
  path ∈ graph.cycles ∧ ∃ source target, [source, target] <:+ path ∧ [source, target] <:+: walk

/-- The graph without the edges that close a reported path. -/
def opened (graph : RelationGraph) : RelationGraph :=
  ⟨graph.relations.filter fun relation =>
    !graph.cycles.any fun path => [relation.source, relation.target].isSuffixOf path⟩

def Disjoint (one other : List String) : Prop :=
  ∀ source target, [source, target] <:+: one → ¬ [source, target] <:+: other

theorem IsCycle.represented {walk : List String} (cycle : graph.IsCycle walk) :
    ∃ path, graph.Represents path walk := by
  obtain ⟨done, search, reached, covers, same⟩ := exists_reached_cycles graph
  obtain ⟨source, target, on, path, member, closing⟩ :=
    reached.finished.closes_cycle (fun _ node => covers node) cycle
  exact ⟨path, by rw [same]; exact List.mem_reverse.mpr member, source, target, closing, on⟩

theorem isCycle_of_mem_cycles {path : List String} (member : path ∈ graph.cycles) :
    graph.IsCycle path := by
  obtain ⟨done, search, reached, -, same⟩ := exists_reached_cycles graph
  rw [same] at member
  exact reached.cycles path (List.mem_reverse.mp member)

theorem hasEdge_opened {source target : String} :
    graph.opened.HasEdge source target ↔
      graph.HasEdge source target ∧ ¬ ClosedIn graph.cycles source target := by
  have closing (relation : Relation) :
      (!graph.cycles.any fun path => [relation.source, relation.target].isSuffixOf path) = true ↔
        ¬ ClosedIn graph.cycles relation.source relation.target := by
    simp [ClosedIn]
  constructor
  · rintro ⟨relation, member, rfl, rfl⟩
    obtain ⟨kept, unclosed⟩ := List.mem_filter.mp member
    exact ⟨⟨relation, kept, rfl, rfl⟩, (closing relation).mp unclosed⟩
  · rintro ⟨⟨relation, member, rfl, rfl⟩, unclosed⟩
    exact ⟨relation, List.mem_filter.mpr ⟨member, (closing relation).mpr unclosed⟩, rfl, rfl⟩

theorem isAcyclic_opened (graph : RelationGraph) : graph.opened.IsAcyclic := by
  intro walk cycle
  have original : graph.IsCycle walk :=
    ⟨cycle.nonTrivial, cycle.closed,
      cycle.chain.imp fun source target edge => (hasEdge_opened.mp edge).1⟩
  obtain ⟨path, member, source, target, closing, on⟩ := original.represented
  have pair := cycle.chain.infix on
  have edge := List.isChain_pair.mp pair
  exact (hasEdge_opened.mp edge).2 ⟨path, member, closing⟩

/-- A path represents no two walks without a common edge. -/
theorem Represents.not_disjoint {path one other : List String}
    (first : graph.Represents path one) (second : graph.Represents path other) :
    ¬ Disjoint one other := by
  obtain ⟨-, source, target, closing, on⟩ := first
  obtain ⟨-, source', target', closing', on'⟩ := second
  obtain ⟨rfl, rfl⟩ := closing_edge_unique closing closing'
  intro disjoint
  exact disjoint source target on on'

theorem exists_represented {path : List String} {paths walks : List (List String)}
    (represents : List.Forall₂ graph.Represents paths walks) (member : path ∈ paths) :
    ∃ walk ∈ walks, graph.Represents path walk := by
  induction represents with
  | nil => cases member
  | cons first _ ih =>
      rcases List.mem_cons.mp member with rfl | later
      · exact ⟨_, List.mem_cons_self, first⟩
      · obtain ⟨walk, present, represented⟩ := ih later
        exact ⟨walk, List.mem_cons_of_mem _ present, represented⟩

/-- Each of some disjoint cycles is represented by a path of its own. -/
theorem exists_representatives {walks : List (List String)}
    (cycles : ∀ walk ∈ walks, graph.IsCycle walk) (disjoint : walks.Pairwise Disjoint) :
    ∃ paths, List.Forall₂ graph.Represents paths walks ∧ paths.Nodup := by
  induction walks with
  | nil => exact ⟨[], .nil, List.nodup_nil⟩
  | cons walk walks ih =>
      obtain ⟨apart, disjoint⟩ := List.pairwise_cons.mp disjoint
      obtain ⟨path, represents⟩ := (cycles walk List.mem_cons_self).represented
      obtain ⟨paths, others, distinct⟩ :=
        ih (fun other member => cycles other (List.mem_cons_of_mem _ member)) disjoint
      refine ⟨path :: paths, .cons represents others, List.nodup_cons.mpr ⟨?_, distinct⟩⟩
      -- the last edge of a path that is used twice would lie on two disjoint cycles
      intro repeated
      obtain ⟨other, member, represented⟩ := exists_represented others repeated
      exact represents.not_disjoint represented (apart other member)

/-- The paths that the search reports meet every cycle of the relations: a cycle has
an edge at the end of one of them, without those edges nothing is left to go round,
disjoint cycles have reported paths of their own, and nothing is reported when
there is no cycle. -/
theorem cycles_meet_every_cycle (relations : List Relation) :
    (∀ walk, (ofRelations relations).IsCycle walk →
      ∃ source target, [source, target] <:+: walk ∧
        ∃ path ∈ (ofRelations relations).cycles, [source, target] <:+ path) ∧
    (ofRelations relations).opened.IsAcyclic ∧
    (∀ walks : List (List String), (∀ walk ∈ walks, (ofRelations relations).IsCycle walk) →
      walks.Pairwise Disjoint →
      ∃ paths, List.Forall₂ (ofRelations relations).Represents paths walks ∧ paths.Nodup) ∧
    ((ofRelations relations).cycles = [] ↔ (ofRelations relations).IsAcyclic) := by
  refine ⟨?_, isAcyclic_opened _,
    fun walks cycles disjoint => exists_representatives cycles disjoint, ?_⟩
  · intro walk cycle
    obtain ⟨path, member, source, target, closing, on⟩ := cycle.represented
    exact ⟨source, target, on, path, member, closing⟩
  · constructor
    · intro none walk cycle
      obtain ⟨path, member, -⟩ := cycle.represented
      rw [none] at member
      cases member
    · intro acyclic
      exact List.eq_nil_iff_forall_not_mem.mpr fun path member =>
        acyclic path (isCycle_of_mem_cycles member)

/-- Two tables refer to each other, beside one that refers to itself. -/
theorem cycles_meet_every_cycle_mutual :
    let graph := ofRelations
      [⟨"Casts", "Buff", "Skill", true⟩, ⟨"Next", "Item", "Item", true⟩,
        ⟨"Gives", "Skill", "Buff", false⟩]
    graph.IsCycle ["Buff", "Skill", "Buff"] ∧
      ∃ source target, [source, target] <:+: ["Buff", "Skill", "Buff"] ∧
        ∃ path ∈ graph.cycles, [source, target] <:+ path := by
  intro graph
  have cycle : graph.IsCycle ["Buff", "Skill", "Buff"] := by
    refine ⟨by decide, rfl, ?_⟩
    simp [graph, HasEdge, relations_ofRelations]
  exact ⟨cycle, (cycles_meet_every_cycle _).1 _ cycle⟩

end SheetCompiler.RelationGraph

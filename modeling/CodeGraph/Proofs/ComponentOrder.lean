import CodeGraph.Proofs.Components

/-!
# The order of components

The search for components goes depth first. It comes back from a component only after everything
that the component leads to, so no component leads to one that is completed later. Within a
component the nodes stand as they were discovered.

Main definitions:

- `Discovers`: the order in which ids are discovered depth first;
- `ComponentSearch.pending`: the ids that a search has still to look at;
- `ComponentSearch.Ordered`: how the components of a search are ordered.

Main statements:

- `Discovers.unique`: there is one such order;
- `ComponentSearch.discovers_run`: a search meets ids in this order;
- `ComponentSearch.Ordered.move`, `ComponentSearch.Ordered.run`: what a step keeps, and a run;
- `Store.components_ordered`: the order of the components that hold a cycle, and of their members.
-/
namespace CodeGraph

/-! ## Depth-first discovery -/

/-- Some ids are visited one after the other when others are discovered already. A visit discovers
an id that is new, and after it all that the visits to its successors discover, before the next id
is visited. The last list tells what is discovered in the end, the first id first. -/
inductive Discovers (next : String → List String) :
    List String → List String → List String → Prop
  | done (seen : List String) : Discovers next seen [] seen
  | old {seen ids after : List String} {id : String} (known : id ∈ seen)
      (rest : Discovers next seen ids after) : Discovers next seen (id :: ids) after
  | new {seen mid ids after : List String} {id : String} (fresh : id ∉ seen)
      (below : Discovers next (seen ++ [id]) (next id) mid)
      (rest : Discovers next mid ids after) : Discovers next seen (id :: ids) after

namespace Discovers

variable {next : String → List String} {seen ids more after after' : List String} {id : String}

/-- There is one order in which ids are discovered. -/
theorem unique (h : Discovers next seen ids after) (h' : Discovers next seen ids after') :
    after = after' := by
  induction h generalizing after' with
  | done => cases h'; rfl
  | old known _ ih =>
    cases h' with
    | old _ rest => exact ih rest
    | new fresh => exact absurd known fresh
  | new fresh _ _ ih_below ih_rest =>
    cases h' with
    | old known => exact absurd known fresh
    | new _ below rest =>
      obtain rfl := ih_below below
      exact ih_rest rest

/-- Visits to a list are visits to its front and then to the rest. -/
theorem exists_mid (h : Discovers next seen (ids ++ more) after) :
    ∃ mid, Discovers next seen ids mid ∧ Discovers next mid more after := by
  induction ids generalizing seen with
  | nil => exact ⟨seen, .done seen, h⟩
  | cons id ids ih =>
    cases h with
    | old known rest =>
      obtain ⟨mid, front, back⟩ := ih rest
      exact ⟨mid, .old known front, back⟩
    | new fresh below rest =>
      obtain ⟨mid, front, back⟩ := ih rest
      exact ⟨mid, .new fresh below front, back⟩

/-- A new id may be put in front of its successors. -/
theorem enter (fresh : id ∉ seen) (h : Discovers next (seen ++ [id]) (next id ++ ids) after) :
    Discovers next seen (id :: ids) after := by
  obtain ⟨mid, below, rest⟩ := h.exists_mid
  exact .new fresh below rest

end Discovers

namespace ComponentSearch

variable {next : String → List String} {all : List String} {s t : ComponentSearch}

/-- The ids that are still to be looked at: the successors that wait on the way, the last node
first, and then the roots. -/
def pending (s : ComponentSearch) : List String := s.work.flatMap Prod.snd ++ s.roots

theorem pending_of_work {id t : String} {ts : List String} {rest : List (String × List String)}
    (hw : s.work = (id, t :: ts) :: rest) :
    s.pending = t :: pending { s with work := (id, ts) :: rest } := by
  simp [pending, hw]

/-- The successors of a node that is entered come before everything else. -/
theorem pending_enter (s : ComponentSearch) (id : String) :
    (s.enter next id).pending = next id ++ s.pending := by
  simp [pending, enter]

/-- What is discovered from the outcome of a step on is discovered from before the step on. -/
theorem Move.discovers (m : Move next s t) {after : List String}
    (h : Discovers next t.met t.pending after) : Discovers next s.met s.pending after := by
  cases m with
  | idle => exact h
  | @skip root roots hw hr old =>
    have split : s.pending = root :: pending { s with roots := roots } := by simp [pending, hw, hr]
    rw [split]
    exact .old old h
  | @start root roots hw hr fresh =>
    have split : s.pending = root :: pending { s with roots := roots } := by simp [pending, hw, hr]
    rw [met_enter { s with roots := roots } fresh, pending_enter] at h
    rw [split]
    exact .enter fresh h
  | @descend id t ts rest hw fresh =>
    rw [met_enter { s with work := (id, ts) :: rest } fresh, pending_enter] at h
    rw [pending_of_work hw]
    exact .enter fresh h
  | look hw old on =>
    rw [pending_of_work hw]
    exact .old old h
  | pass hw old off =>
    rw [pending_of_work hw]
    exact .old old h
  | @leave id rest hw =>
    obtain ⟨roots_eq, met_eq, work_eq⟩ := leave_eq { s with work := rest } id
    have same : s.pending = pending { s with work := rest } := by simp [pending, hw]
    have left : (ComponentSearch.leave id { s with work := rest }).pending =
        pending { s with work := rest } := by rw [pending, roots_eq, work_eq]; rfl
    rw [met_eq, left] at h
    rw [same]
    exact h

/-- A search that has come to its end has met ids in the order in which they are discovered. -/
theorem discovers_run {n : Nat} (finished : (run next n s).Finished) :
    Discovers next s.met s.pending (run next n s).met := by
  induction n generalizing s with
  | zero =>
    obtain ⟨work, roots⟩ : s.work = [] ∧ s.roots = [] := finished
    have nothing : s.pending = [] := by simp [pending, work, roots]
    rw [nothing]
    exact .done _
  | succ n ih => exact (move_step next s).discovers (ih finished)

/-! ## Components in their order -/

/-- How the components of a search are ordered. -/
structure Ordered (next : String → List String) (s : ComponentSearch) : Prop where
  /-- No component leads to a later one. -/
  unreached : s.done.Pairwise fun c d => ∀ u ∈ c, ∀ v ∈ d, ¬ Reaches next u v
  component_sublist : ∀ c ∈ s.done, c.Sublist s.met
  stack_sublist : s.stack.reverse.Sublist s.met

section Steps

variable {id : String} {top below : List String}

theorem Ordered.enter (h : Ordered next s) (fresh : id ∉ s.met) :
    Ordered next (s.enter next id) := by
  have met_eq : (s.enter next id).met = s.met ++ [id] := met_enter s fresh
  have stack_eq : (s.enter next id).stack.reverse = s.stack.reverse ++ [id] := List.reverse_cons
  refine ⟨h.unreached, ?_, ?_⟩
  · intro c hc
    rw [met_eq]
    exact (h.component_sublist c hc).trans (List.sublist_append_left _ _)
  · rw [met_eq, stack_eq]
    exact h.stack_sublist.append_right [id]

/-- Leaving a node completes its component, or none. -/
theorem leave_cases (parts : s.Parts id top below) :
    ((s.leave id).done = s.done ∧ (s.leave id).stack = s.stack) ∨
      (s.leave id).done = s.done ++ [(top ++ [id]).reverse] ∧ (s.leave id).stack = below := by
  obtain ⟨done_eq, stack_eq⟩ := handOver_eq s id
  have parts' : (s.handOver id).Parts id top below := by
    obtain ⟨split, top_eq, below_eq⟩ := parts
    rw [← stack_eq] at split top_eq below_eq
    exact ⟨split, top_eq, below_eq⟩
  unfold leave
  dsimp only
  split
  · rw [parts'.done_close, parts'.stack_close, done_eq]
    exact .inr ⟨rfl, rfl⟩
  · exact .inl ⟨done_eq, stack_eq⟩

/-- The component that is completed last was not reached from those before it, since these lead
to complete components only. -/
theorem Ordered.leave (h : Ordered next s) (sound : Sound next all s)
    {rest : List (String × List String)} (hw : s.work = (id, []) :: rest) :
    Ordered next (ComponentSearch.leave id { s with work := rest }) := by
  obtain ⟨top, below, parts⟩ := exists_parts (sound.shape.way_stack (mem_way_of_work hw))
  have parts' : Parts { s with work := rest } id top below := ⟨parts.1, parts.2, parts.3⟩
  obtain ⟨-, met_eq, -⟩ := leave_eq { s with work := rest } id
  have stack_eq : s.stack.reverse = below.reverse ++ (top ++ [id]).reverse := by
    rw [parts.stack_eq]
    simp
  have grown := h.stack_sublist
  rw [stack_eq] at grown
  rcases leave_cases parts' with ⟨done_same, stack_same⟩ | ⟨done_new, stack_new⟩
  · constructor
    · rw [done_same]
      exact h.unreached
    · rw [done_same, met_eq]
      exact h.component_sublist
    · rw [stack_same, met_eq]
      exact h.stack_sublist
  · constructor
    · rw [done_new, List.pairwise_append]
      refine ⟨h.unreached, List.pairwise_singleton _ _, ?_⟩
      intro c hc d hd u hu v hv path
      rw [List.mem_singleton.1 hd, List.mem_reverse] at hv
      -- a path from a complete component would end in one, but its end is still on the stack
      have closed_u : u ∈ s.closed := List.mem_flatten.2 ⟨c, hc, hu⟩
      have closed_v : v ∈ s.closed :=
        path.stays (p := (· ∈ s.closed)) sound.linked.closed_next closed_u
      exact sound.shape.not_closed (parts.mem_stack hv) closed_v
    · rw [done_new, met_eq]
      intro c hc
      rcases List.mem_append.1 hc with old | new
      · exact h.component_sublist c old
      · rw [List.mem_singleton.1 new]
        exact (List.sublist_append_right _ _).trans grown
    · rw [stack_new, met_eq]
      exact (List.sublist_append_left _ _).trans grown

end Steps

theorem Ordered.move (h : Ordered next s) (sound : Sound next all s) (m : Move next s t) :
    Ordered next t := by
  cases m with
  | idle => exact h
  | skip => exact ⟨h.unreached, h.component_sublist, h.stack_sublist⟩
  | @start root roots _ _ fresh =>
    have before : Ordered next { s with roots := roots } :=
      ⟨h.unreached, h.component_sublist, h.stack_sublist⟩
    exact before.enter fresh
  | @descend id t ts rest _ fresh =>
    have before : Ordered next { s with work := (id, ts) :: rest } :=
      ⟨h.unreached, h.component_sublist, h.stack_sublist⟩
    exact before.enter fresh
  | look => exact ⟨h.unreached, h.component_sublist, h.stack_sublist⟩
  | pass => exact ⟨h.unreached, h.component_sublist, h.stack_sublist⟩
  | leave hw => exact h.leave sound hw

theorem Ordered.run (h : Ordered next s) (sound : Sound next all s)
    (within : ∀ u, ∀ v ∈ next u, v ∈ all) (n : Nat) :
    Ordered next (ComponentSearch.run next n s) := by
  induction n generalizing s with
  | zero => exact h
  | succ n ih => exact ih (h.move sound (move_step next s)) (sound.step within)

/-- Before the first step there are no components. -/
theorem ordered_start (next : String → List String) (roots : List String) :
    Ordered next { roots := roots } :=
  ⟨List.Pairwise.nil, nofun, List.nil_sublist _⟩

/-- The nodes met in the end, in the order in which they are discovered. -/
theorem met_perm (distinct : all.Nodup) (sound : Sound next all s) (finished : s.Finished) :
    s.met.Perm all := by
  have met_distinct : s.met.Nodup := s.index.nodup_keys'
  apply (List.perm_ext_iff_of_nodup met_distinct distinct).2
  intro v
  refine ⟨sound.shape.met_within v, fun hv => (sound.shape.all_listed v hv).resolve_right ?_⟩
  rw [finished.2]
  exact List.not_mem_nil

end ComponentSearch

/-! ## The components of a selection -/

/-- Ids stand at growing places of a list without repetitions when they are a part of it in its
order. -/
theorem idxOf_le_of_sublist {first : String} {rest order : List String}
    (part : (first :: rest).Sublist order) (distinct : order.Nodup) {v : String}
    (hv : v ∈ first :: rest) : order.idxOf first ≤ order.idxOf v := by
  obtain ⟨front, back, rfl, in_front, in_back⟩ := List.cons_sublist_iff.1 part
  rcases List.mem_cons.1 hv with rfl | later
  · exact le_rfl
  · have apart : v ∉ front := fun early =>
      (List.nodup_append.1 distinct).2.2 v early v (in_back.subset later) rfl
    rw [List.idxOf_append_of_mem in_front, List.idxOf_append_of_notMem apart]
    have before : front.idxOf first < front.length := List.idxOf_lt_length_of_mem in_front
    omega

namespace Store

variable {g : Store}

/-- All components of a selection are ordered: none leads to a later one, and the members of each
stand in the order in which the nodes of the selection are discovered. -/
theorem exists_discovery (g : Store) (s : Selection) :
    (g.allComponents s).Pairwise
      (fun c d => ∀ u ∈ c, ∀ v ∈ d, ¬ Reaches (g.selectedSuccessors s) u v) ∧
    ∃ order, Discovers (g.selectedSuccessors s) [] (g.selected s) order ∧
      order.Perm (g.selected s) ∧ ∀ c ∈ g.allComponents s, c.Sublist order := by
  have distinct := nodup_selected g s
  have within : ∀ u, ∀ v ∈ g.selectedSuccessors s u, v ∈ g.selected s := fun _ _ =>
    mem_selected_of_mem_selectedSuccessors
  have enough : 2 * (g.selected s).length +
      ((g.selected s).map fun v => (g.selectedSuccessors s v).length).sum ≤
        2 * (g.selected s).length + g.selectedEdgeCount s := by
    rw [selectedEdgeCount, foldl_length, Nat.zero_add]
  have finished := ComponentSearch.finished_run distinct within enough
  have start := ComponentSearch.sound_start (g.selectedSuccessors s) (g.selected s)
  have ordered := (ComponentSearch.ordered_start (g.selectedSuccessors s) (g.selected s)).run start
    within (2 * (g.selected s).length + g.selectedEdgeCount s)
  refine ⟨ordered.unreached, _, ComponentSearch.discovers_run finished, ?_,
    ordered.component_sublist⟩
  exact ComponentSearch.met_perm distinct (start.run within _) finished

/-- Of two components that hold a cycle, one from which a path leads to the other comes later. The
path may go through any nodes of the selection, also through such as are in no component. And each
component begins with that member which is discovered first, when the nodes of the selection are
visited depth first: from all of them in their order, and from each on to its successors in their
order. -/
theorem components_ordered (h : g.Reachable) (s : Selection) :
    (∀ (i j : Nat) (c d : List String), (g.components s)[i]? = some c →
      (g.components s)[j]? = some d → i ≠ j →
      ∀ u ∈ c, ∀ v ∈ d, Relation.ReflTransGen (g.Joins s) u v → j < i) ∧
    (∃ order, Discovers (g.selectedSuccessors s) [] (g.selected s) order) ∧
    ∀ order, Discovers (g.selectedSuccessors s) [] (g.selected s) order →
      order.Perm (g.selected s) ∧
      ∀ c ∈ g.components s, ∃ first, c.head? = some first ∧
        ∀ v ∈ c, order.idxOf first ≤ order.idxOf v := by
  obtain ⟨unreached, met, discovered, perm, parts⟩ := exists_discovery g s
  refine ⟨?_, ⟨met, discovered⟩, ?_⟩
  · intro i j c d hc hd apart u hu v hv path
    have selected := mem_selected_of_mem_component (List.mem_of_getElem? hc) hu
    have reach := (h.reaches_iff selected).2 path
    have forward : (g.components s).Pairwise
        (fun c d => ∀ u ∈ c, ∀ v ∈ d, ¬ Reaches (g.selectedSuccessors s) u v) :=
      unreached.sublist List.filter_sublist
    by_contra late
    obtain ⟨hi, rfl⟩ := List.getElem?_eq_some_iff.1 hc
    obtain ⟨hj, rfl⟩ := List.getElem?_eq_some_iff.1 hd
    exact List.pairwise_iff_getElem.1 forward i j hi hj (by omega) u hu v hv reach
  · intro order other
    obtain rfl := other.unique discovered
    refine ⟨perm, ?_⟩
    intro c hc
    have listed := (mem_components_iff.1 hc).1
    cases c with
    | nil => exact absurd rfl ((areComponents_allComponents g s).ne_nil [] listed)
    | cons first rest =>
      refine ⟨first, rfl, fun v hv => ?_⟩
      exact idxOf_le_of_sublist (parts _ listed) (perm.nodup_iff.2 (nodup_selected g s)) hv

/-- Two functions call each other, and one of them calls a third, which calls one of two others that
call each other. -/
def callPairs : Store :=
  (empty.applyAll [.addNode ⟨"a", NodeType.function, "a", []⟩,
    .addNode ⟨"b", NodeType.function, "b", []⟩, .addNode ⟨"t", NodeType.function, "t", []⟩,
    .addNode ⟨"c", NodeType.function, "c", []⟩, .addNode ⟨"d", NodeType.function, "d", []⟩,
    .addEdge ⟨"a", "b", EdgeType.calls, []⟩, .addEdge ⟨"b", "a", EdgeType.calls, []⟩,
    .addEdge ⟨"b", "t", EdgeType.calls, []⟩, .addEdge ⟨"t", "d", EdgeType.calls, []⟩,
    .addEdge ⟨"d", "c", EdgeType.calls, []⟩, .addEdge ⟨"c", "d", EdgeType.calls, []⟩]).1

/-- No calls lead back from the pair that comes first. In it the function that is called from
outside is discovered first, though it was added last. -/
theorem components_ordered_callPairs :
    callPairs.Reachable ∧
    callPairs.components .callGraph = [["d", "c"], ["a", "b"]] ∧
    ¬ Relation.ReflTransGen (callPairs.Joins .callGraph) "c" "b" ∧
    ∃ order, Discovers (callPairs.selectedSuccessors .callGraph) []
        (callPairs.selected .callGraph) order ∧ order.idxOf "d" ≤ order.idxOf "c" := by
  have reachable : callPairs.Reachable := ⟨_, rfl⟩
  have found : callPairs.components .callGraph = [["d", "c"], ["a", "b"]] := by decide
  obtain ⟨later, ⟨order, discovered⟩, first⟩ := components_ordered reachable .callGraph
  refine ⟨reachable, found, ?_, order, discovered, ?_⟩
  · intro path
    have early := later 0 1 ["d", "c"] ["a", "b"] (by rw [found]; rfl) (by rw [found]; rfl)
      (by decide) "c" (by decide) "b" (by decide) path
    exact absurd early (by decide)
  · obtain ⟨d, head, least⟩ := (first order discovered).2 ["d", "c"] (by rw [found]; decide)
    obtain rfl := Option.some.inj head
    exact least "c" (by decide)

end Store

end CodeGraph

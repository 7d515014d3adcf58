import CodeGraph.Proofs.CallDepths
import CodeGraph.Proofs.Walks

/-!
# Where calls come from

Going back from call to call one comes to an entry point, or round a cycle. So every function is
called, directly or not, by an entry point or by a member of a component, unless it is one itself.
Without cycles, the entry points call everything. In the same way, going on from call to call leads
to a function that calls nothing.

Main definition:

- `Store.CalledFrom`: a node is one of some nodes, or called by one of them.

Main statements:

- `exists_first_or_cycle`: a way back has an end, or runs in a circle;
- `Store.Reachable.calledFrom_iff`: what some nodes call, as what paths lead to;
- `Store.entryPoints_cover`: entry points and components together call everything.
-/
namespace CodeGraph

/-- From every one of finitely many ids a way back leads to an id that nothing comes before, or to a
cycle. -/
theorem exists_first_or_cycle {r : String → String → Prop} {ids : List String}
    (within : ∀ u v, r u v → u ∈ ids) {v : String} (hv : v ∈ ids) :
    ∃ u ∈ ids, Relation.ReflTransGen r u v ∧ ((∀ w, ¬ r w u) ∨ Relation.TransGen r u u) := by
  classical
  let above := ids.filter fun u => Relation.ReflTransGen r u v
  have mem_above : ∀ u, u ∈ above ↔ u ∈ ids ∧ Relation.ReflTransGen r u v := by
    intro u
    simp [above]
  by_cases further : ∀ u ∈ above, ∃ w ∈ above, r w u
  · obtain ⟨u, hu, cycle⟩ := exists_cycle ((mem_above v).2 ⟨hv, .refl⟩) further
    obtain ⟨listed, path⟩ := (mem_above u).1 hu
    exact ⟨u, listed, path, .inr cycle⟩
  · push Not at further
    obtain ⟨u, hu, first⟩ := further
    obtain ⟨listed, path⟩ := (mem_above u).1 hu
    refine ⟨u, listed, path, .inl ?_⟩
    intro w edge
    apply first w ?_ edge
    exact (mem_above w).2 ⟨within w u edge, .head edge path⟩

namespace Store

variable {g : Store} {u v : String}

/-! ## Calls -/

/-- All calls together are a selection. -/
theorem Reachable.selectedSuccessors_calls (h : g.Reachable) :
    g.selectedSuccessors (.calls none) = g.callees := h.successors_calls_eq.symm

/-- Calls join nodes. -/
theorem Reachable.ends_of_call (h : g.Reachable) (call : Follows g.callees u v) :
    u ∈ g.ids ∧ v ∈ g.ids := h.ends_of_mem_neighbors call

/-- The callers of a node are the nodes that it is a callee of. -/
theorem Reachable.mem_callers_iff (h : g.Reachable) : u ∈ g.callers v ↔ v ∈ g.callees u := by
  obtain ⟨m, indexes⟩ := h.indexes
  exact iff_of_eq (congrFun₂ (indexes.follows_incoming (some [EdgeType.calls])) v u)

/-- The entry points are the nodes that nothing calls. -/
theorem Reachable.mem_entryPoints_iff (h : g.Reachable) {types : Option (List String)} :
    v ∈ g.entryPoints types ↔ v ∈ g.scope types ∧ ∀ u, v ∉ g.callees u := by
  have uncalled : g.inDegree v (some [EdgeType.calls]) = 0 ↔ g.callers v = [] := by
    simp [inDegree, callers, predecessors]
  rw [entryPoints, List.mem_filter, beq_iff_eq, uncalled, List.eq_nil_iff_forall_not_mem]
  simp only [h.mem_callers_iff]

/-- The leaf functions are the nodes that call nothing. -/
theorem mem_leafFunctions_iff {types : Option (List String)} :
    u ∈ g.leafFunctions types ↔ u ∈ g.scope types ∧ ∀ v, v ∉ g.callees u := by
  have no_calls : g.outDegree u (some [EdgeType.calls]) = 0 ↔ g.callees u = [] := by
    simp [outDegree, callees, neighbors]
  rw [leafFunctions, List.mem_filter, beq_iff_eq, no_calls, List.eq_nil_iff_forall_not_mem]

/-- A way back along calls ends at an entry point or in a cycle. -/
theorem Reachable.exists_entry_or_cycle (h : g.Reachable) (hv : v ∈ g.ids) :
    ∃ u ∈ g.ids, Reaches g.callees u v ∧ (u ∈ g.entryPoints none ∨ OnCycle g.callees u) := by
  obtain ⟨u, hu, path, first | cycle⟩ :=
    exists_first_or_cycle (fun _ _ call => (h.ends_of_call call).1) hv
  · exact ⟨u, hu, path, .inl (h.mem_entryPoints_iff.2 ⟨hu, first⟩)⟩
  · exact ⟨u, hu, path, .inr cycle⟩

/-- A way on along calls ends at a leaf function or in a cycle. -/
theorem Reachable.exists_leaf_or_cycle (h : g.Reachable) (hv : v ∈ g.ids) :
    ∃ u ∈ g.ids, Reaches g.callees v u ∧ (u ∈ g.leafFunctions none ∨ OnCycle g.callees u) := by
  -- turned round, a way on is a way back
  obtain ⟨u, hu, path, last | cycle⟩ := exists_first_or_cycle
    (r := Function.swap (Follows g.callees)) (fun _ _ call => (h.ends_of_call call).2) hv
  · exact ⟨u, hu, Relation.reflTransGen_swap.1 path, .inl (mem_leafFunctions_iff.2 ⟨hu, last⟩)⟩
  · exact ⟨u, hu, Relation.reflTransGen_swap.1 path, .inr (Relation.transGen_swap.1 cycle)⟩

theorem Reachable.not_onCycle (h : g.Reachable) (acyclic : g.hasCycle (.calls none) = false)
    (hu : u ∈ g.ids) : ¬ OnCycle g.callees u := by
  intro cycle
  rw [← h.selectedSuccessors_calls] at cycle
  have cyclic : g.hasCycle (.calls none) = true := hasCycle_iff.2 ⟨u, hu, cycle⟩
  rw [acyclic] at cyclic
  cases cyclic

/-! ## Coverage -/

/-- A node is one of some nodes, or called by one of them, directly or not. -/
def CalledFrom (g : Store) (starts : List String) (v : String) : Prop :=
  v ∈ starts ∨ ∃ u ∈ starts, ∃ called, g.transitiveCallees u = .ok called ∧ v ∈ called

/-- What a node calls, directly or not, is what paths of calls lead to, without the node itself. -/
theorem Reachable.exists_transitiveCallees (h : g.Reachable) (hu : u ∈ g.ids) :
    ∃ called, g.transitiveCallees u = .ok called ∧
      ∀ v, v ∈ called ↔ v ≠ u ∧ Reaches g.callees u v := by
  obtain ⟨m, indexes⟩ := h.indexes
  obtain ⟨called, run, -, met⟩ := indexes.transitive_exact hu (some [EdgeType.calls]) .outgoing
  exact ⟨called, run, met⟩

/-- What some nodes call, or are, is what paths of calls lead to from them. -/
theorem Reachable.calledFrom_iff (h : g.Reachable) {starts : List String}
    (nodes : ∀ u ∈ starts, u ∈ g.ids) :
    g.CalledFrom starts v ↔ ∃ u ∈ starts, Reaches g.callees u v := by
  constructor
  · rintro (start | ⟨u, hu, called, run, met⟩)
    · exact ⟨v, start, .refl⟩
    · obtain ⟨same, run', paths⟩ := h.exists_transitiveCallees (nodes u hu)
      obtain rfl := Except.ok.inj (run.symm.trans run')
      exact ⟨u, hu, ((paths v).1 met).2⟩
  · rintro ⟨u, hu, path⟩
    by_cases same : v = u
    · left
      rwa [same]
    · right
      obtain ⟨called, run, paths⟩ := h.exists_transitiveCallees (nodes u hu)
      exact ⟨u, hu, called, run, (paths v).2 ⟨same, path⟩⟩

/-- Every node is an entry point or called by one, directly or not, or is in a component or called
by a member of one. Without a cycle, the entry points alone call everything, and a graph that has
nodes has an entry point and a leaf function. -/
theorem entryPoints_cover (h : g.Reachable) :
    (∀ v ∈ g.ids, g.CalledFrom (g.entryPoints none) v ∨
      ∃ c ∈ g.components (.calls none), g.CalledFrom c v) ∧
    (g.hasCycle (.calls none) = false →
      (∀ v ∈ g.ids, g.CalledFrom (g.entryPoints none) v) ∧
      (g.ids ≠ [] → g.entryPoints none ≠ [] ∧ g.leafFunctions none ≠ [])) := by
  have entries : ∀ u ∈ g.entryPoints none, u ∈ g.ids := by
    intro u entry
    exact (h.mem_entryPoints_iff.1 entry).1
  constructor
  · intro v hv
    obtain ⟨u, hu, path, entry | cycle⟩ := h.exists_entry_or_cycle hv
    · left
      exact (h.calledFrom_iff entries).2 ⟨u, entry, path⟩
    · right
      rw [← h.selectedSuccessors_calls] at cycle
      obtain ⟨c, hc, member⟩ := (exists_component_iff (s := .calls none) hu).2 cycle
      refine ⟨c, hc, (h.calledFrom_iff fun w hw => ?_).2 ⟨u, member, path⟩⟩
      exact mem_selected_of_mem_component hc hw
  · intro acyclic
    have covered : ∀ v ∈ g.ids, ∃ u ∈ g.entryPoints none, Reaches g.callees u v := by
      intro v hv
      obtain ⟨u, hu, path, entry | cycle⟩ := h.exists_entry_or_cycle hv
      · exact ⟨u, entry, path⟩
      · exact absurd cycle (h.not_onCycle acyclic hu)
    constructor
    · intro v hv
      exact (h.calledFrom_iff entries).2 (covered v hv)
    · intro some_node
      obtain ⟨v, hv⟩ := List.exists_mem_of_ne_nil _ some_node
      obtain ⟨u, entry, -⟩ := covered v hv
      obtain ⟨w, hw, -, leaf | cycle⟩ := h.exists_leaf_or_cycle hv
      · exact ⟨List.ne_nil_of_mem entry, List.ne_nil_of_mem leaf⟩
      · exact absurd cycle (h.not_onCycle acyclic hw)

/-- An entry point that calls a function, beside two functions that call each other and a third
one. -/
def deadRing : Store :=
  (empty.applyAll [.addNode ⟨"main", NodeType.function, "main", []⟩,
    .addNode ⟨"help", NodeType.function, "help", []⟩,
    .addNode ⟨"ping", NodeType.function, "ping", []⟩,
    .addNode ⟨"pong", NodeType.function, "pong", []⟩,
    .addNode ⟨"log", NodeType.function, "log", []⟩,
    .addEdge ⟨"main", "help", EdgeType.calls, []⟩, .addEdge ⟨"ping", "pong", EdgeType.calls, []⟩,
    .addEdge ⟨"pong", "ping", EdgeType.calls, []⟩,
    .addEdge ⟨"pong", "log", EdgeType.calls, []⟩]).1

/-- The same calls without the one that closes the ring. -/
def brokenRing : Store := (deadRing.apply (.removeEdge ⟨"pong", "ping", EdgeType.calls, []⟩)).1

/-- Only a component calls the third function, as the entry point does not. When the ring is broken,
one of its functions becomes an entry point and calls the rest. -/
theorem entryPoints_cover_deadRing :
    deadRing.Reachable ∧ deadRing.entryPoints none = ["main"] ∧
    deadRing.components (.calls none) = [["ping", "pong"]] ∧
    deadRing.CalledFrom ["ping", "pong"] "log" ∧
    brokenRing.Reachable ∧ brokenRing.hasCycle (.calls none) = false ∧
    brokenRing.entryPoints none = ["main", "ping"] ∧
    brokenRing.CalledFrom ["main", "ping"] "log" := by
  have reachable : deadRing.Reachable := ⟨_, rfl⟩
  have entries : deadRing.entryPoints none = ["main"] := by decide
  have found : deadRing.components (.calls none) = [["ping", "pong"]] := by decide
  have not_from_main : ¬ deadRing.CalledFrom ["main"] "log" := by
    have listed : deadRing.transitiveCallees "main" = .ok ["help"] := rfl
    rintro (start | ⟨u, hu, called, run, met⟩)
    · revert start
      decide
    · obtain rfl := List.mem_singleton.1 hu
      obtain rfl := Except.ok.inj (listed.symm.trans run)
      revert met
      decide
  have called : deadRing.CalledFrom ["ping", "pong"] "log" := by
    have covered := (entryPoints_cover reachable).1 "log" (by decide)
    rw [entries, found] at covered
    simpa [not_from_main] using covered
  have broken : brokenRing.Reachable := reachable.apply _
  have acyclic : brokenRing.hasCycle (.calls none) = false := by decide
  have more_entries : brokenRing.entryPoints none = ["main", "ping"] := by decide
  have still_called : brokenRing.CalledFrom ["main", "ping"] "log" := by
    rw [← more_entries]
    exact ((entryPoints_cover broken).2 acyclic).1 "log" (by decide)
  exact ⟨reachable, entries, found, called, broken, acyclic, more_entries, still_called⟩

end Store

end CodeGraph

import CodeGraph.Proofs.CallDepths
import CodeGraph.Proofs.Distances
import Mathlib.Data.List.Chain

/-!
# The longest chains are found

The search for depths is judged by walks, which are told by the nodes they visit. From a node either
some walk visits a node twice, and then it can go on for ever, or there is a longest walk. The
search says which, and how many edges that walk has.

Main definitions:

- `walkLengths`: the numbers of edges of the walks from an id;
- `Store.LeadsInto`: an edge of some types leads from one node to a member.

Main statements:

- `hasChain_iff`: chains of so many edges as walks;
- `reachesCycle_iff`: an id reaches a cycle when a walk from it visits an id twice;
- `Store.longestChain_exact`: what the search for a depth finds, from every start and into all sets
  of members.
-/
namespace CodeGraph

/-- The numbers of edges of all walks from an id. A walk is told by the ids that it visits after
the first one. -/
def walkLengths (r : String → String → Prop) (u : String) : Set Nat :=
  {n | ∃ rest, (u :: rest).IsChain r ∧ rest.length = n}

section Walks

variable {next : String → List String} {u v : String} {n : Nat} {rest : List String}

/-- A chain of so many edges is a walk of so many edges. -/
theorem hasChain_iff : HasChain next n u ↔ n ∈ walkLengths (Follows next) u := by
  induction n generalizing u with
  | zero =>
    refine ⟨fun _ => ⟨[], List.isChain_singleton u, rfl⟩, fun _ => trivial⟩
  | succ n ih =>
    constructor
    · rintro ⟨v, edge, onward⟩
      obtain ⟨rest, walk, length⟩ := ih.1 onward
      exact ⟨v :: rest, List.isChain_cons_cons.2 ⟨edge, walk⟩, by rw [List.length_cons, length]⟩
    · rintro ⟨rest, walk, length⟩
      obtain ⟨v, rest, rfl⟩ := List.exists_cons_of_length_eq_add_one length
      obtain ⟨edge, walk⟩ := List.isChain_cons_cons.1 walk
      exact ⟨v, edge, ih.2 ⟨rest, walk, Nat.succ.inj length⟩⟩

/-- From an id that is on the rest of a walk the walk has come back. -/
theorem onCycle_of_mem (walk : (u :: rest).IsChain (Follows next)) (again : u ∈ rest) :
    OnCycle next u := by
  have paths : (u :: rest).IsChain (Relation.TransGen (Follows next)) :=
    walk.imp fun _ _ edge => .single edge
  exact List.rel_of_pairwise_cons paths.pairwise again

theorem reachesCycle_of_not_nodup (walk : (u :: rest).IsChain (Follows next))
    (twice : ¬ (u :: rest).Nodup) : ReachesCycle next u := by
  induction rest generalizing u with
  | nil => exact absurd (List.nodup_singleton u) twice
  | cons v rest ih =>
    by_cases again : u ∈ v :: rest
    · exact ⟨u, .refl, onCycle_of_mem walk again⟩
    · obtain ⟨edge, onward⟩ := List.isChain_cons_cons.1 walk
      apply ReachesCycle.of_edge edge
      apply ih onward
      intro distinct
      exact twice (List.nodup_cons.2 ⟨again, distinct⟩)

/-- The way to a cycle and once round it is a walk that visits an id twice. -/
theorem ReachesCycle.exists_walk (h : ReachesCycle next u) :
    ∃ rest, (u :: rest).IsChain (Follows next) ∧ ¬ (u :: rest).Nodup := by
  obtain ⟨v, path, cycle⟩ := h
  obtain ⟨w, edge, back⟩ := Relation.TransGen.head'_iff.1 cycle
  obtain ⟨there, first, last⟩ := List.exists_isChain_cons_of_relationReflTransGen path
  obtain ⟨round, second, home⟩ := List.exists_isChain_cons_of_relationReflTransGen back
  refine ⟨there ++ w :: round, ?_, ?_⟩
  · rw [← List.cons_append, List.isChain_append]
    refine ⟨first, second, ?_⟩
    intro a ha b hb
    rw [List.getLast?_eq_some_getLast (List.cons_ne_nil u there), last, Option.mem_some_iff] at ha
    rw [List.head?_cons, Option.mem_some_iff] at hb
    subst ha hb
    exact edge
  · have early : v ∈ u :: there := by
      rw [← last]
      exact List.getLast_mem _
    have late : v ∈ w :: round := by
      rw [← home]
      exact List.getLast_mem _
    intro distinct
    rw [← List.cons_append, List.nodup_append] at distinct
    exact distinct.2.2 v early v late rfl

/-- An id reaches a cycle when a walk from it visits an id twice. -/
theorem reachesCycle_iff :
    ReachesCycle next u ↔ ∃ rest, (u :: rest).IsChain (Follows next) ∧ ¬ (u :: rest).Nodup := by
  constructor
  · exact ReachesCycle.exists_walk
  · rintro ⟨rest, walk, twice⟩
    exact reachesCycle_of_not_nodup walk twice

/-- A depth is the number of edges of a longest walk. -/
theorem Depth.isOf_finite_iff :
    (Depth.finite n).IsOf next u ↔ IsGreatest (walkLengths (Follows next) u) n := by
  constructor
  · rintro ⟨longest, none_longer⟩
    refine ⟨hasChain_iff.1 longest, ?_⟩
    intro k walk
    by_contra longer
    have chain : HasChain next k u := hasChain_iff.2 walk
    exact none_longer (chain.of_le (Nat.lt_of_not_le longer))
  · rintro ⟨longest, bound⟩
    refine ⟨hasChain_iff.2 longest, ?_⟩
    intro longer
    have le : n + 1 ≤ n := bound (hasChain_iff.1 longer)
    omega

end Walks

namespace Store

variable {g : Store} {m : Multigraph}

/-- An edge of some types leads from one node to another, which is a member. -/
def LeadsInto (g : Store) (types members : Option (List String)) (u v : String) : Prop :=
  g.HasEdge types u v ∧ ∀ ms ∈ members, v ∈ ms

/-- The successors of a node are the members to which its edges lead. -/
theorem Indexes.follows_successors (h : g.Indexes m) (types members : Option (List String)) :
    Follows (g.successors types members) = g.LeadsInto types members := by
  have ahead := h.follows_neighbors types
  funext u v
  have edge : v ∈ g.neighbors u types ↔ g.HasEdge types u v := by
    rw [← ahead]
    rfl
  apply propext
  cases members with
  | none => simp [Follows, successors, LeadsInto, edge]
  | some ms => simp [Follows, successors, LeadsInto, edge]

theorem leadsInto_none (g : Store) (types : Option (List String)) :
    g.LeadsInto types none = g.HasEdge types := by
  funext u v
  simp [LeadsInto]

theorem Reachable.longestChain_eq_iff (h : g.Reachable) {id : String}
    {types members : Option (List String)} {d : Depth} :
    g.longestChain id types members = d ↔ d.IsOf (g.successors types members) id := by
  have depth := h.longestChain_isOf id types members
  constructor
  · rintro rfl
    exact depth
  · intro other
    exact depth.unique other

theorem callDepth_of_not_mem_ids {id : String} (hid : id ∉ g.ids) :
    g.callDepth id = .error (.nodeNotFound id) :=
  if_neg (mt contains_eq_true_iff.1 hid)

/-- The depth of a function is the number of calls on a longest walk. -/
theorem Reachable.callDepth_eq_ok_iff_isGreatest (h : g.Reachable) {id : String} {n : Nat} :
    g.callDepth id = .ok n ↔
      id ∈ g.ids ∧ IsGreatest (walkLengths (g.HasEdge (some [EdgeType.calls])) id) n := by
  obtain ⟨m, indexes⟩ := h.indexes
  by_cases hid : id ∈ g.ids
  · rw [callDepth_eq_ok_iff hid, h.longestChain_eq_iff, Depth.isOf_finite_iff,
      indexes.follows_successors, leadsInto_none, and_iff_right hid]
  · rw [callDepth_of_not_mem_ids hid]
    simp [hid]

/-- The search for the depth of a function fails for an id that is no node, and for a node from
which calls lead to a cycle. -/
theorem Reachable.callDepth_eq_error_iff_cycle (h : g.Reachable) {id : String} {f : Failure} :
    g.callDepth id = .error f ↔
      (id ∉ g.ids ∧ f = .nodeNotFound id) ∨
        (id ∈ g.ids ∧ f = .cycleDetected id ∧
          ∃ v, Relation.ReflTransGen (g.HasEdge (some [EdgeType.calls])) id v ∧
            Relation.TransGen (g.HasEdge (some [EdgeType.calls])) v v) := by
  obtain ⟨m, indexes⟩ := h.indexes
  by_cases hid : id ∈ g.ids
  · have cyclic : g.longestChain id = .cyclic ↔ ∃ v,
        Relation.ReflTransGen (g.HasEdge (some [EdgeType.calls])) id v ∧
          Relation.TransGen (g.HasEdge (some [EdgeType.calls])) v v := by
      rw [h.longestChain_eq_cyclic_iff, ← leadsInto_none, ← indexes.follows_successors]
      rfl
    rw [callDepth_of_mem_ids hid, ← cyclic]
    cases g.longestChain id <;> simp [hid, eq_comm]
  · rw [callDepth_of_not_mem_ids hid]
    simp [hid, eq_comm]

/-- The search for a longest chain finds that there is none exactly when some walk along edges of
the types into members visits a node twice; else it finds the greatest number of edges of such a
walk. So the depth of a function is the number of calls on a longest walk, and the question fails
exactly for an id that is no node and for a node on a cycle of calls or leading to one. -/
theorem longestChain_exact (h : g.Reachable) (id : String) :
    (∀ types members,
      (g.longestChain id types members = .cyclic ↔
        ∃ rest, (id :: rest).IsChain (g.LeadsInto types members) ∧ ¬ (id :: rest).Nodup) ∧
      ∀ n, g.longestChain id types members = .finite n ↔
        IsGreatest (walkLengths (g.LeadsInto types members) id) n) ∧
    (∀ n, g.callDepth id = .ok n ↔
      id ∈ g.ids ∧ IsGreatest (walkLengths (g.HasEdge (some [EdgeType.calls])) id) n) ∧
    ∀ f, g.callDepth id = .error f ↔
      (id ∉ g.ids ∧ f = .nodeNotFound id) ∨
        (id ∈ g.ids ∧ f = .cycleDetected id ∧
          ∃ v, Relation.ReflTransGen (g.HasEdge (some [EdgeType.calls])) id v ∧
            Relation.TransGen (g.HasEdge (some [EdgeType.calls])) v v) := by
  obtain ⟨m, indexes⟩ := h.indexes
  refine ⟨?_, fun n => h.callDepth_eq_ok_iff_isGreatest, fun f => h.callDepth_eq_error_iff_cycle⟩
  intro types members
  rw [← indexes.follows_successors types members]
  constructor
  · rw [h.longestChain_eq_cyclic_iff, reachesCycle_iff]
  · intro n
    rw [h.longestChain_eq_iff, Depth.isOf_finite_iff]

/-- One of two functions that call each other has no depth. Walks that may not come back to it have
an end, after two calls; and an id that is no node has no depth to ask for. -/
theorem longestChain_exact_callPair :
    callPair.Reachable ∧
    (∃ rest, ("f" :: rest).IsChain (callPair.LeadsInto (some [EdgeType.calls]) none) ∧
      ¬ ("f" :: rest).Nodup) ∧
    IsGreatest
      (walkLengths (callPair.LeadsInto (some [EdgeType.calls]) (some ["g", "h"])) "f") 2 ∧
    callPair.callDepth "k" = .error (.nodeNotFound "k") := by
  have reachable : callPair.Reachable := ⟨_, rfl⟩
  have walks := (longestChain_exact reachable "f").1 (some [EdgeType.calls])
  obtain ⟨-, -, failures⟩ := longestChain_exact reachable "k"
  refine ⟨reachable, ?_, ?_, ?_⟩
  · exact (walks none).1.1 (by decide)
  · exact ((walks (some ["g", "h"])).2 2).1 (by decide)
  · exact (failures (.nodeNotFound "k")).2 (.inl ⟨by decide, rfl⟩)

end Store

end CodeGraph

import CodeGraph.Proofs.TraversalLayers
import Mathlib.Order.Bounds.Defs

/-!
# Walks and traversals

A walk goes from edge to edge, and its edges are counted. The layer at a distance holds the ids to
which a shortest walk has just so many edges, so a traversal meets the nodes that walks within its
bound lead to, the nearest ones first. Turned round, a walk has as many edges as before. This is why
a traversal along the edges and one against them find the same pairs of nodes.

Main definition:

- `Walk`: so many edges lead from one id to another.

Main statements:

- `mem_front_iff_isLeast`, `mem_seen_iff_walk`: the layers of a traversal and walks;
- `pairwise_seen`: the nearest ids come first;
- `Store.Indexes.exists_transitive`: what a traversal meets, with and without a bound;
- `Store.transitive_dual`: traversals in both directions find the same pairs.
-/
namespace CodeGraph

/-- So many edges of a relation lead from one id to another. -/
inductive Walk (r : String → String → Prop) : Nat → String → String → Prop
  | here (u : String) : Walk r 0 u u
  | step {n : Nat} {u w v : String} (edge : r u w) (rest : Walk r n w v) : Walk r (n + 1) u v

section Walks

variable {r : String → String → Prop} {m n : Nat} {u v w : String}

theorem Walk.trans (h : Walk r m u w) (onward : Walk r n w v) : Walk r (m + n) u v := by
  induction h with
  | here u =>
    rw [Nat.zero_add]
    exact onward
  | step edge _ ih =>
    rw [Nat.succ_add]
    exact .step edge (ih onward)

/-- A walk may be made longer at its end. -/
theorem Walk.tail (h : Walk r n u w) (edge : r w v) : Walk r (n + 1) u v :=
  h.trans (.step edge (.here v))

theorem Walk.pos (h : Walk r n u v) (other : u ≠ v) : 0 < n := by
  cases h with
  | here u => exact absurd rfl other
  | step _ _ => omega

theorem Walk.exists_last (h : Walk r (n + 1) u v) : ∃ w, Walk r n u w ∧ r w v := by
  induction n generalizing u with
  | zero =>
    obtain _ | ⟨edge, rest⟩ := h
    cases rest
    exact ⟨u, .here u, edge⟩
  | succ n ih =>
    obtain _ | ⟨edge, rest⟩ := h
    obtain ⟨w, before, last⟩ := ih rest
    exact ⟨w, .step edge before, last⟩

theorem Walk.swap (h : Walk r n u v) : Walk (Function.swap r) n v u := by
  induction h with
  | here u => exact .here u
  | step edge _ ih => exact ih.tail edge

/-- Turned round, a walk has as many edges as before. -/
theorem walk_swap_iff : Walk (Function.swap r) n u v ↔ Walk r n v u := ⟨Walk.swap, Walk.swap⟩

theorem reflTransGen_iff_exists_walk : Relation.ReflTransGen r u v ↔ ∃ n, Walk r n u v := by
  constructor
  · intro path
    induction path with
    | refl => exact ⟨0, .here u⟩
    | tail _ edge ih =>
      obtain ⟨n, walk⟩ := ih
      exact ⟨n + 1, walk.tail edge⟩
  · rintro ⟨n, walk⟩
    induction walk with
    | here u => exact .refl
    | step edge _ ih => exact .head edge ih

end Walks

/-! ## Layers -/

section Layers

variable {next : String → List String} {id v : String} {k m n : Nat}

theorem walk_of_mem_front (h : v ∈ (layer next id n).front) : Walk (Follows next) n id v := by
  induction n generalizing v with
  | zero =>
    obtain rfl := List.mem_singleton.1 h
    exact .here v
  | succ n ih =>
    obtain ⟨⟨u, hu, edge⟩, -⟩ := mem_front_succ_iff.1 h
    exact (ih hu).tail edge

theorem mem_seen_of_le (h : v ∈ (layer next id m).seen) (le : m ≤ n) :
    v ∈ (layer next id n).seen := (isPrefix_seen le).subset h

/-- A walk is not faster than the layers. -/
theorem Walk.mem_seen (h : Walk (Follows next) n id v) : v ∈ (layer next id n).seen := by
  induction n generalizing v with
  | zero =>
    cases h
    exact List.mem_singleton.2 rfl
  | succ n ih =>
    obtain ⟨w, before, last⟩ := h.exists_last
    by_cases known : v ∈ (layer next id n).seen
    · exact mem_seen_of_le known n.le_succ
    · rw [seen_succ]
      apply List.mem_append_right
      rw [mem_front_succ_iff]
      rcases mem_front_or_closed (ih before) with front | closed
      · exact ⟨⟨w, front, last⟩, known⟩
      · exact absurd (closed v last) known

/-- After some layers, those ids are seen to which a walk leads that is no longer. -/
theorem mem_seen_iff_walk :
    v ∈ (layer next id n).seen ↔ ∃ k, k ≤ n ∧ Walk (Follows next) k id v := by
  constructor
  · intro seen
    induction n with
    | zero =>
      obtain rfl := List.mem_singleton.1 seen
      exact ⟨0, Nat.le_refl 0, .here v⟩
    | succ n ih =>
      rw [seen_succ, List.mem_append] at seen
      rcases seen with old | new
      · obtain ⟨k, le, walk⟩ := ih old
        exact ⟨k, by omega, walk⟩
      · exact ⟨n + 1, Nat.le_refl _, walk_of_mem_front new⟩
  · rintro ⟨k, le, walk⟩
    exact mem_seen_of_le walk.mem_seen le

/-- The layer at a distance holds the ids to which a shortest walk has so many edges. -/
theorem mem_front_iff_isLeast :
    v ∈ (layer next id n).front ↔ IsLeast {k | Walk (Follows next) k id v} n := by
  constructor
  · intro front
    refine ⟨walk_of_mem_front front, ?_⟩
    intro k (walk : Walk (Follows next) k id v)
    cases n with
    | zero => exact Nat.zero_le k
    | succ n =>
      by_contra shorter
      apply (mem_front_succ_iff.1 front).2
      exact mem_seen_of_le walk.mem_seen (by omega)
  · rintro ⟨walk, least⟩
    cases n with
    | zero =>
      cases walk
      exact List.mem_singleton.2 rfl
    | succ n =>
      have seen := Walk.mem_seen walk
      rw [seen_succ, List.mem_append] at seen
      refine seen.resolve_left fun old => ?_
      obtain ⟨k, le, early⟩ := mem_seen_iff_walk.1 old
      have late : n + 1 ≤ k := least early
      omega

/-- An id is no farther away than another one. -/
def NoFarther (next : String → List String) (id u v : String) : Prop :=
  ∀ k, Walk (Follows next) k id v → ∃ j, j ≤ k ∧ Walk (Follows next) j id u

/-- The nearest ids come first. -/
theorem pairwise_seen (next : String → List String) (id : String) (n : Nat) :
    (layer next id n).seen.Pairwise (NoFarther next id) := by
  induction n with
  | zero => exact List.pairwise_singleton _ id
  | succ n ih =>
    rw [seen_succ]
    refine List.pairwise_append.2 ⟨ih, List.pairwise_of_forall_mem_list ?_, ?_⟩
    · intro u hu v hv k walk
      have late := (mem_front_iff_isLeast.1 hv).2 walk
      exact ⟨n + 1, late, walk_of_mem_front hu⟩
    · intro u hu v hv k walk
      have late : n + 1 ≤ k := (mem_front_iff_isLeast.1 hv).2 walk
      obtain ⟨j, le, early⟩ := mem_seen_iff_walk.1 hu
      exact ⟨j, by omega, early⟩

end Layers

/-! ## Traversals of a graph -/

/-- Whether a walk of so many edges stays within the bound of a traversal, which counts the hops
beyond the direct neighbours. -/
def WithinDepth (maxDepth : Option Int) (k : Nat) : Prop :=
  ∀ bound, maxDepth = some bound → (k : Int) ≤ bound + 1

namespace Store

variable {g : Store} {m : Multigraph} {u v : String}

/-- Walks stay among the nodes. -/
theorem Indexes.mem_ids_of_walk (h : g.Indexes m) {types : Option (List String)}
    {direction : Direction} {k : Nat} (walk : Walk (Follows (g.adjacent types direction)) k u v)
    (hu : u ∈ g.ids) : v ∈ g.ids := by
  induction walk with
  | here u => exact hu
  | step edge _ ih => exact ih (h.mem_ids_of_mem_adjacent edge)

/-- A traversal ends with the nodes of a layer. But for the start, these are the nodes to which a
walk within the bound leads. -/
theorem Indexes.exists_layer (h : g.Indexes m) {id : String} (hid : id ∈ g.ids)
    (types : Option (List String)) (direction : Direction) (maxDepth : Option Int) :
    ∃ n, g.transitive id types direction maxDepth =
        .ok (layer (g.adjacent types direction) id n).seen.tail ∧
      ∀ v, v ≠ id → (v ∈ (layer (g.adjacent types direction) id n).seen ↔
        ∃ k, WithinDepth maxDepth k ∧ Walk (Follows (g.adjacent types direction)) k id v) := by
  cases maxDepth with
  | none =>
    have ended := h.front_nodeCount hid types direction
    refine ⟨_, h.transitive_eq hid types direction, ?_⟩
    intro v _
    rw [mem_seen_iff_reaches ended, Reaches, reflTransGen_iff_exists_walk]
    simp [WithinDepth]
  | some bound =>
    refine ⟨_, h.transitive_bounded_eq hid types direction bound, ?_⟩
    intro v other
    rw [mem_seen_iff_walk]
    simp only [WithinDepth, Option.some.injEq, forall_eq']
    apply exists_congr
    intro k
    apply and_congr_left
    intro walk
    have positive := walk.pos other.symm
    omega

/-- A traversal meets each node to which a walk within its bound leads once, without the start and
the nearest ones first. -/
theorem Indexes.exists_transitive (h : g.Indexes m) {id : String} (hid : id ∈ g.ids)
    (types : Option (List String)) (direction : Direction) (maxDepth : Option Int) :
    ∃ found, g.transitive id types direction maxDepth = .ok found ∧ found.Nodup ∧
      (∀ v, v ∈ found ↔ v ≠ id ∧
        ∃ k, WithinDepth maxDepth k ∧ Walk (Follows (g.adjacent types direction)) k id v) ∧
      found.Pairwise (NoFarther (g.adjacent types direction) id) := by
  obtain ⟨n, run, met⟩ := h.exists_layer hid types direction maxDepth
  refine ⟨_, run, (nodup_seen _ id n).tail, ?_, (pairwise_seen _ id n).tail⟩
  intro v
  rw [mem_tail_seen_iff]
  apply and_congr_right
  exact met v

/-! ## Both directions -/

/-- An edge that leaves one node for another reaches the other from the one. -/
theorem Indexes.follows_incoming (h : g.Indexes m) (types : Option (List String)) :
    Follows (g.adjacent types .incoming) =
      Function.swap (Follows (g.adjacent types .outgoing)) := by
  funext v u
  apply propext
  simp only [Follows, Function.swap, adjacent, predecessors, neighbors, incoming, outgoing,
    List.mem_map, h.reaching.mem_edgesAt, h.leaving.mem_edgesAt]
  apply exists_congr
  intro e
  constructor
  · rintro ⟨⟨listed, target, admitted⟩, source⟩
    exact ⟨⟨listed, source, admitted⟩, target⟩
  · rintro ⟨⟨listed, source, admitted⟩, target⟩
    exact ⟨⟨listed, target, admitted⟩, source⟩

/-- One node is met from another along the edges exactly when the other is met from the one against
them. Both mean that a walk within the bound leads from the one to the other. -/
theorem Indexes.exists_transitive_both (h : g.Indexes m) (hu : u ∈ g.ids) (hv : v ∈ g.ids)
    (types : Option (List String)) (maxDepth : Option Int) :
    ∃ ahead back, g.transitive u types .outgoing maxDepth = .ok ahead ∧
      g.transitive v types .incoming maxDepth = .ok back ∧ (v ∈ ahead ↔ u ∈ back) ∧
      (v ∈ ahead ↔ v ≠ u ∧
        ∃ k, WithinDepth maxDepth k ∧ Walk (Follows (g.adjacent types .outgoing)) k u v) := by
  obtain ⟨ahead, forward, -, met, -⟩ := h.exists_transitive hu types .outgoing maxDepth
  obtain ⟨back, backward, -, met_back, -⟩ := h.exists_transitive hv types .incoming maxDepth
  refine ⟨ahead, back, forward, backward, ?_, met v⟩
  rw [met, met_back, h.follows_incoming, ne_comm]
  simp only [walk_swap_iff]

/-- Traversals in both directions find the same pairs of nodes, for all types of edges and all
bounds. In particular one function calls another, directly or not and within a bound, exactly when
the other is called by the one. -/
theorem transitive_dual (h : g.Reachable) (hu : u ∈ g.ids) (hv : v ∈ g.ids) :
    (∀ types maxDepth, ∃ ahead back, g.transitive u types .outgoing maxDepth = .ok ahead ∧
      g.transitive v types .incoming maxDepth = .ok back ∧ (v ∈ ahead ↔ u ∈ back) ∧
      (v ∈ ahead ↔ v ≠ u ∧
        ∃ k, WithinDepth maxDepth k ∧ Walk (Follows (g.adjacent types .outgoing)) k u v)) ∧
    ∀ maxDepth, ∃ callees callers, g.transitiveCallees u maxDepth = .ok callees ∧
      g.transitiveCallers v maxDepth = .ok callers ∧ (v ∈ callees ↔ u ∈ callers) := by
  obtain ⟨m, indexes⟩ := h.indexes
  constructor
  · intro types maxDepth
    exact indexes.exists_transitive_both hu hv types maxDepth
  · intro maxDepth
    obtain ⟨callees, callers, forward, backward, same, -⟩ :=
      indexes.exists_transitive_both hu hv (some [EdgeType.calls]) maxDepth
    exact ⟨callees, callers, forward, backward, same⟩

/-- A ring of calls with a call beside it. A call and a function with its calls were removed, and
the function was added again. -/
def mendedRing : Store :=
  (empty.applyAll [.addNode ⟨"a", NodeType.function, "a", []⟩,
    .addNode ⟨"b", NodeType.function, "b", []⟩, .addNode ⟨"c", NodeType.function, "c", []⟩,
    .addEdge ⟨"a", "c", EdgeType.calls, []⟩, .addEdge ⟨"a", "b", EdgeType.calls, []⟩,
    .addEdge ⟨"b", "c", EdgeType.calls, []⟩, .addEdge ⟨"c", "a", EdgeType.calls, []⟩,
    .removeEdge ⟨"a", "c", EdgeType.calls, []⟩, .removeNode "b",
    .addNode ⟨"b", NodeType.function, "b", []⟩, .addEdge ⟨"b", "c", EdgeType.calls, []⟩,
    .addEdge ⟨"b", "b", EdgeType.calls, []⟩, .addEdge ⟨"a", "b", EdgeType.calls, []⟩]).1

/-- The first function calls the third one through the second one, so one hop beyond the direct
calls is needed in both directions. -/
theorem transitive_dual_mendedRing :
    mendedRing.Reachable ∧ "a" ∈ mendedRing.ids ∧ "c" ∈ mendedRing.ids ∧
    (∃ callers, mendedRing.transitiveCallers "c" (some 0) = .ok callers ∧ "a" ∉ callers) ∧
    ∃ callers, mendedRing.transitiveCallers "c" (some 1) = .ok callers ∧ "a" ∈ callers := by
  have reachable : mendedRing.Reachable := ⟨_, rfl⟩
  have start : "a" ∈ mendedRing.ids := by decide
  have goal : "c" ∈ mendedRing.ids := by decide
  obtain ⟨-, dual⟩ := transitive_dual reachable start goal
  refine ⟨reachable, start, goal, ?_, ?_⟩
  · obtain ⟨callees, callers, forward, backward, same⟩ := dual (some 0)
    have listed : mendedRing.transitiveCallees "a" (some 0) = .ok ["b"] := rfl
    obtain rfl := Except.ok.inj (listed.symm.trans forward)
    refine ⟨callers, backward, ?_⟩
    rw [← same]
    decide
  · obtain ⟨callees, callers, forward, backward, same⟩ := dual (some 1)
    have listed : mendedRing.transitiveCallees "a" (some 1) = .ok ["b", "c"] := rfl
    obtain rfl := Except.ok.inj (listed.symm.trans forward)
    refine ⟨callers, backward, ?_⟩
    rw [← same]
    decide

end Store

end CodeGraph

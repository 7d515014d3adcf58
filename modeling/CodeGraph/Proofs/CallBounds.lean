import CodeGraph.Proofs.CallDepths
import CodeGraph.Proofs.FoundPaths

/-!
# Call depths as bounds

A function of some depth has no chain of more calls than its depth. So whatever it calls, directly
or not, is met within that many calls, is at the end of a chain that a search with this bound finds,
and has a smaller depth itself.

Main statements:

- `Walk.hasChain`: a chain at the end of a walk makes a longer one at its start;
- `Depth.IsOf.exists_lt`: depths go down along walks;
- `Store.callDepth_bounds`: the depth of a function bounds traversals, paths and other depths.
-/
namespace CodeGraph

section Chains

variable {next : String → List String} {m n : Nat} {u v : String}

/-- A chain at the end of a walk makes a longer one at its start. -/
theorem Walk.hasChain (h : Walk (Follows next) m u v) (chain : HasChain next n v) :
    HasChain next (n + m) u := by
  induction h with
  | here u => exact chain
  | step edge _ ih => exact ⟨_, edge, ih chain⟩

/-- No walk is longer than a depth. -/
theorem Depth.IsOf.walk_le (h : (Depth.finite n).IsOf next u) (walk : Walk (Follows next) m u v) :
    m ≤ n := by
  by_contra longer
  have chain : HasChain next (0 + m) u := walk.hasChain trivial
  apply h.2
  apply chain.of_le
  omega

/-- Along a walk the depth goes down by the number of its edges, or more. -/
theorem Depth.IsOf.exists_lt (h : (Depth.finite n).IsOf next u)
    (walk : Walk (Follows next) m u v) {d : Depth} (depth : d.IsOf next v) :
    ∃ k, d = .finite k ∧ k + m ≤ n := by
  cases d with
  | cyclic =>
    have chain := walk.hasChain (ReachesCycle.hasChain depth (n + 1))
    exact absurd (chain.of_le (by omega)) h.2
  | finite k =>
    refine ⟨k, rfl, ?_⟩
    by_contra deeper
    have chain := walk.hasChain depth.1
    apply h.2
    apply chain.of_le
    omega

end Chains

/-! ## Depths of functions -/

namespace Store

variable {g : Store} {m : Multigraph} {a b : String} {d : Nat}

/-- Only nodes have depths. -/
theorem mem_ids_of_callDepth (depth : g.callDepth a = .ok d) : a ∈ g.ids := by
  unfold callDepth at depth
  split at depth
  · next node => exact contains_eq_true_iff.1 node
  · cases depth

/-- The depth of a function is that of its chains of calls. -/
theorem Reachable.isOf_of_callDepth (h : g.Reachable) (depth : g.callDepth a = .ok d) :
    (Depth.finite d).IsOf g.callees a := by
  have chain := h.longestChain_isOf a (some [EdgeType.calls]) none
  rw [(callDepth_eq_ok_iff (mem_ids_of_callDepth depth)).1 depth] at chain
  exact chain

/-- A traversal with a bound meets everything in the same order as one without a bound when no walk
is longer. -/
theorem Indexes.transitive_eq_of_bounded (h : g.Indexes m) (ha : a ∈ g.ids)
    (types : Option (List String)) (direction : Direction)
    (bounded : ∀ k v, Walk (Follows (g.adjacent types direction)) k a v → k ≤ d) :
    g.transitive a types direction (some ((d : Int) - 1)) = g.transitive a types direction := by
  have no_more : (layer (g.adjacent types direction) a (d + 1)).front = [] := by
    apply List.eq_nil_iff_forall_not_mem.2
    intro v front
    have le := bounded (d + 1) v (walk_of_mem_front front)
    omega
  have same : (layer (g.adjacent types direction) a d).seen =
      (layer (g.adjacent types direction) a g.nodeCount).seen := by
    have last : (layer (g.adjacent types direction) a (d + 1)).seen =
        (layer (g.adjacent types direction) a d).seen := by
      rw [seen_succ, no_more, List.append_nil]
    rw [← last]
    exact seen_eq_of_front_eq_nil no_more (h.front_nodeCount ha types direction)
  rw [h.transitive_bounded_eq ha, h.transitive_eq ha, Int.sub_add_cancel, Int.toNat_natCast, same]

/-- The depth of a function bounds what can be asked about its calls. With one hop less than the
depth, as direct calls come without a hop, a traversal meets everything that the function calls. To
each of these nodes a chain of calls is found within the depth, and each has a smaller depth. -/
theorem callDepth_bounds (h : g.Reachable) (depth : g.callDepth a = .ok d) :
    ∃ called, g.transitiveCallees a = .ok called ∧
      g.transitiveCallees a (some ((d : Int) - 1)) = .ok called ∧
      ∀ b ∈ called,
        (∃ path, g.callChain a b (some d) = .ok path ∧ IsPath g.callees a b path ∧
          path.length ≤ d + 1) ∧
        ∃ n, n < d ∧ g.callDepth b = .ok n := by
  obtain ⟨m, indexes⟩ := h.indexes
  have ha := mem_ids_of_callDepth depth
  have chain := h.isOf_of_callDepth depth
  have bounded : ∀ k v, Walk (Follows g.callees) k a v → k ≤ d := fun _ _ => chain.walk_le
  have same : g.transitiveCallees a (some ((d : Int) - 1)) = g.transitiveCallees a :=
    indexes.transitive_eq_of_bounded ha (some [EdgeType.calls]) .outgoing bounded
  obtain ⟨called, run, -, met, -⟩ :=
    indexes.exists_transitive ha (some [EdgeType.calls]) .outgoing none
  refine ⟨called, run, same.trans run, ?_⟩
  intro b hb
  obtain ⟨other, k, -, walk⟩ := (met b).1 hb
  have positive := walk.pos other.symm
  have hb := indexes.mem_ids_of_walk walk ha
  constructor
  · have seen : b ∈ (layer (g.adjacent (some [EdgeType.calls]) .outgoing) a d).seen :=
      mem_seen_iff_walk.2 ⟨k, bounded k b walk, walk⟩
    obtain ⟨path, found⟩ := (indexes.exists_shortestPath_iff_mem_layer ha hb other.symm d
      (some [EdgeType.calls])).2 (mem_tail_seen_iff.2 ⟨other, seen⟩)
    have path_calls : IsPath g.callees a b path := isPath_of_shortestPath found
    obtain ⟨n, size, path_walk⟩ := path_calls.exists_walk
    have short := bounded n b path_walk
    exact ⟨path, found, path_calls, by omega⟩
  · obtain ⟨n, below, lower⟩ :=
      chain.exists_lt walk (h.longestChain_isOf b (some [EdgeType.calls]) none)
    exact ⟨n, by omega, (callDepth_eq_ok_iff hb).2 below⟩

/-- Two functions that call each other, one of which calls a third one. From there two ways lead to
a last function, one of them through another one. -/
def longWay : Store :=
  (empty.applyAll [.addNode ⟨"ping", NodeType.function, "ping", []⟩,
    .addNode ⟨"pong", NodeType.function, "pong", []⟩,
    .addNode ⟨"run", NodeType.function, "run", []⟩,
    .addNode ⟨"open", NodeType.function, "open", []⟩,
    .addNode ⟨"read", NodeType.function, "read", []⟩,
    .addEdge ⟨"ping", "pong", EdgeType.calls, []⟩, .addEdge ⟨"pong", "ping", EdgeType.calls, []⟩,
    .addEdge ⟨"pong", "run", EdgeType.calls, []⟩, .addEdge ⟨"run", "read", EdgeType.calls, []⟩,
    .addEdge ⟨"run", "open", EdgeType.calls, []⟩,
    .addEdge ⟨"open", "read", EdgeType.calls, []⟩]).1

/-- The third function has depth two though it calls the last one itself, and the functions that it
calls have smaller depths. -/
theorem callDepth_bounds_longWay :
    longWay.Reachable ∧ longWay.callDepth "run" = .ok 2 ∧
    longWay.transitiveCallees "run" (some 1) = .ok ["read", "open"] ∧
    (∃ path, longWay.callChain "run" "read" (some 2) = .ok path ∧
      IsPath longWay.callees "run" "read" path ∧ path.length ≤ 3) ∧
    ∃ n, n < 2 ∧ longWay.callDepth "open" = .ok n := by
  have reachable : longWay.Reachable := ⟨_, rfl⟩
  have depth : longWay.callDepth "run" = .ok 2 := by decide
  obtain ⟨called, all, near, bounds⟩ := callDepth_bounds reachable depth
  have listed : longWay.transitiveCallees "run" = .ok ["read", "open"] := rfl
  obtain rfl := Except.ok.inj (listed.symm.trans all)
  obtain ⟨-, below⟩ := bounds "open" (by decide)
  obtain ⟨path, -⟩ := bounds "read" (by decide)
  exact ⟨reachable, depth, near, path, below⟩

end Store

end CodeGraph

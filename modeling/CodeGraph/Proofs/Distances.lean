import CodeGraph.Proofs.Walks
import Mathlib.Order.Lattice.Nat

/-!
# Distances

The distance from one node to another is the number of edges on a shortest walk between them. A
traversal keeps to distances: it meets just the nodes whose distance is within its bound, and those
that are nearer come first.

Main definitions:

- `IsDistance`: so many edges are on a shortest walk;
- `Store.HasEdge`, `Store.Leads`: the edges of a graph as a relation, and their two directions.

Main statements:

- `Store.Indexes.follows_adjacent`: to be adjacent is to be joined by an edge;
- `Store.transitive_distances`: what a traversal lists, told by distances;
- `Store.transitive_deepens`: a traversal that goes deeper lists more nodes after the same ones.
-/
namespace CodeGraph

/-- So many edges are on a shortest walk from one id to another. -/
def IsDistance (r : String → String → Prop) (u v : String) (n : Nat) : Prop :=
  IsLeast {k | Walk r k u v} n

section Distances

variable {r : String → String → Prop} {k m n : Nat} {u v : String}

/-- Where a walk leads, there is a distance, which is not more than the edges of the walk. -/
theorem Walk.exists_distance (h : Walk r k u v) : ∃ n, IsDistance r u v n ∧ n ≤ k := by
  have least : IsDistance r u v (sInf {k | Walk r k u v}) := by
    constructor
    · exact Nat.sInf_mem ⟨k, h⟩
    · intro j walk
      exact Nat.sInf_le walk
  exact ⟨_, least, least.2 h⟩

/-- A walk within a bound leads to an id exactly when its distance is within the bound. -/
theorem exists_withinDepth_walk_iff {maxDepth : Option Int} :
    (∃ k, WithinDepth maxDepth k ∧ Walk r k u v) ↔
      ∃ n, IsDistance r u v n ∧ WithinDepth maxDepth n := by
  constructor
  · rintro ⟨k, within, walk⟩
    obtain ⟨n, least, le⟩ := walk.exists_distance
    refine ⟨n, least, ?_⟩
    intro bound same
    have bounded := within bound same
    omega
  · rintro ⟨n, least, within⟩
    exact ⟨n, within, least.1⟩

/-- Of two ids the one that is no farther away has no greater distance. -/
theorem NoFarther.le {next : String → List String} {id : String} (h : NoFarther next id u v)
    (hu : IsDistance (Follows next) id u m) (hv : IsDistance (Follows next) id v n) : m ≤ n := by
  obtain ⟨j, le, walk⟩ := h n hv.1
  exact (hu.2 walk).trans le

end Distances

namespace Store

/-- An edge of some types, or of any type, leads from one node to another. -/
def HasEdge (g : Store) (types : Option (List String)) (u v : String) : Prop :=
  ∃ e ∈ g.edges, e.source = u ∧ e.target = v ∧ ∀ selected ∈ types, e.type ∈ selected

instance (g : Store) (types : Option (List String)) (u v : String) :
    Decidable (g.HasEdge types u v) :=
  inferInstanceAs (Decidable (∃ e ∈ g.edges, e.source = u ∧ e.target = v ∧
    ∀ selected ∈ types, e.type ∈ selected))

/-- One follows an edge of some types from one node to another, in its direction or against it. -/
def Leads (g : Store) (types : Option (List String)) : Direction → String → String → Prop
  | .outgoing, u, v => g.HasEdge types u v
  | .incoming, u, v => g.HasEdge types v u

variable {g : Store} {m : Multigraph}

/-- The neighbours of a node are the nodes to which its edges lead. -/
theorem Indexes.follows_neighbors (h : g.Indexes m) (types : Option (List String)) :
    Follows (fun id => g.neighbors id types) = g.HasEdge types := by
  funext u v
  have leaving (e : Edge) := h.mem_outgoing_admitted (s := ⟨none, types⟩) (u := u) (e := e)
  apply propext
  rw [Follows, neighbors, List.mem_map, HasEdge]
  constructor
  · rintro ⟨e, he, target⟩
    obtain ⟨listed, source, admitted⟩ := (leaving e).1 he
    exact ⟨e, listed, source, target, admitted⟩
  · rintro ⟨e, listed, source, target, admitted⟩
    exact ⟨e, (leaving e).2 ⟨listed, source, admitted⟩, target⟩

/-- To be adjacent is to be joined by an edge. -/
theorem Indexes.follows_adjacent (h : g.Indexes m) (types : Option (List String))
    (direction : Direction) : Follows (g.adjacent types direction) = g.Leads types direction := by
  cases direction with
  | outgoing => exact h.follows_neighbors types
  | incoming =>
    have ahead : Follows (g.adjacent types .outgoing) = g.HasEdge types :=
      h.follows_neighbors types
    rw [h.follows_incoming, ahead]
    rfl

/-- A traversal fails only for a start that is no node. -/
theorem transitive_eq_error_iff {id : String} {types : Option (List String)}
    {direction : Direction} {maxDepth : Option Int} {f : Failure} :
    g.transitive id types direction maxDepth = .error f ↔ id ∉ g.ids ∧ f = .nodeNotFound id := by
  rw [transitive, ← contains_eq_true_iff]
  cases g.contains id with
  | false => simp [eq_comm]
  | true => simp

/-- A traversal from a node lists each other node whose distance is within its bound once, and no
node before one that is nearer. The bound counts the hops beyond the direct neighbours, so it admits
one edge more than it says, and none when it is negative. The traversal fails exactly when the start
is no node. -/
theorem transitive_distances (h : g.Reachable) (id : String) (types : Option (List String))
    (direction : Direction) (maxDepth : Option Int) :
    (id ∈ g.ids → ∃ found, g.transitive id types direction maxDepth = .ok found ∧ found.Nodup ∧
      (∀ v, v ∈ found ↔ v ≠ id ∧
        ∃ n, IsDistance (g.Leads types direction) id v n ∧ WithinDepth maxDepth n) ∧
      found.Pairwise fun u v => ∀ m n, IsDistance (g.Leads types direction) id u m →
        IsDistance (g.Leads types direction) id v n → m ≤ n) ∧
    ∀ f, g.transitive id types direction maxDepth = .error f ↔
      id ∉ g.ids ∧ f = .nodeNotFound id := by
  obtain ⟨m, indexes⟩ := h.indexes
  refine ⟨?_, fun f => transitive_eq_error_iff⟩
  intro hid
  obtain ⟨found, run, distinct, met, ordered⟩ :=
    indexes.exists_transitive hid types direction maxDepth
  rw [← indexes.follows_adjacent types direction]
  refine ⟨found, run, distinct, ?_, ?_⟩
  · intro v
    rw [met v, exists_withinDepth_walk_iff]
  · apply ordered.imp
    intro u v nearer m n hu hv
    exact nearer.le hu hv

/-- In the ring of calls the third function is at distance two of the first one, so one hop beyond
the direct calls meets it and none does not; a function that is not there cannot be asked about. -/
theorem transitive_distances_mendedRing :
    mendedRing.Reachable ∧ "a" ∈ mendedRing.ids ∧
    (∃ n, IsDistance (mendedRing.Leads (some [EdgeType.calls]) .outgoing) "a" "c" n ∧
      WithinDepth (some 1) n) ∧
    (¬ ∃ n, IsDistance (mendedRing.Leads (some [EdgeType.calls]) .outgoing) "a" "c" n ∧
      WithinDepth (some 0) n) ∧
    mendedRing.transitive "d" none .incoming (some (-1)) = .error (.nodeNotFound "d") := by
  have reachable : mendedRing.Reachable := ⟨_, rfl⟩
  have start : "a" ∈ mendedRing.ids := by decide
  have calls (bound : Int) := (transitive_distances reachable "a" (some [EdgeType.calls]) .outgoing
    (some bound)).1 start
  refine ⟨reachable, start, ?_, ?_, ?_⟩
  · obtain ⟨found, run, -, met, -⟩ := calls 1
    have listed : mendedRing.transitive "a" (some [EdgeType.calls]) .outgoing (some 1) =
        .ok ["b", "c"] := rfl
    obtain rfl := Except.ok.inj (listed.symm.trans run)
    exact ((met "c").1 (by decide)).2
  · obtain ⟨found, run, -, met, -⟩ := calls 0
    have listed : mendedRing.transitive "a" (some [EdgeType.calls]) .outgoing (some 0) =
        .ok ["b"] := rfl
    obtain rfl := Except.ok.inj (listed.symm.trans run)
    intro near
    have member := (met "c").2 ⟨by decide, near⟩
    revert member
    decide
  · have failures := (transitive_distances reachable "d" none .incoming (some (-1))).2
    exact (failures (.nodeNotFound "d")).2 ⟨by decide, rfl⟩

/-! ## Deeper traversals -/

/-- A traversal with a greater bound lists what the traversal with the smaller bound lists, in the
same order, and after that what it meets besides; one without a bound lists the most. From an id
that is no node there is no traversal, whatever the bound. -/
theorem transitive_deepens (h : g.Reachable) (id : String) (types : Option (List String))
    (direction : Direction) :
    (id ∈ g.ids → ∃ whole, g.transitive id types direction none = .ok whole ∧
      ∀ k l : Int, k ≤ l → ∃ near far, g.transitive id types direction (some k) = .ok near ∧
        g.transitive id types direction (some l) = .ok far ∧ near <+: far ∧ far <+: whole) ∧
    (id ∉ g.ids → ∀ maxDepth,
      g.transitive id types direction maxDepth = .error (.nodeNotFound id)) := by
  obtain ⟨m, indexes⟩ := h.indexes
  constructor
  · intro hid
    have ended := indexes.front_nodeCount hid types direction
    refine ⟨_, indexes.transitive_eq hid types direction, ?_⟩
    intro k l le
    -- a bound admits as many layers as it says and one more
    have layers : (k + 1).toNat ≤ (l + 1).toNat := Int.toNat_le_toNat (by omega)
    refine ⟨_, _, indexes.transitive_bounded_eq hid types direction k,
      indexes.transitive_bounded_eq hid types direction l, ?_, ?_⟩
    · simpa only [List.drop_one] using (isPrefix_seen layers).drop 1
    · simpa only [List.drop_one] using (isPrefix_seen_of_front_eq_nil ended).drop 1
  · intro absent maxDepth
    exact transitive_eq_error_iff.2 ⟨absent, rfl⟩

/-- With direct calls only the second function of the ring is met, and the third one comes after it
as soon as one more hop is allowed. -/
theorem transitive_deepens_mendedRing :
    mendedRing.Reachable ∧ "a" ∈ mendedRing.ids ∧ "d" ∉ mendedRing.ids ∧
    (∃ far, mendedRing.transitive "a" (some [EdgeType.calls]) .outgoing (some 1) = .ok far ∧
      ["b"] <+: far ∧ far <+: ["b", "c"]) ∧
    mendedRing.transitive "d" none .incoming (some 2) = .error (.nodeNotFound "d") := by
  have reachable : mendedRing.Reachable := ⟨_, rfl⟩
  have start : "a" ∈ mendedRing.ids := by decide
  have absent : "d" ∉ mendedRing.ids := by decide
  refine ⟨reachable, start, absent, ?_, ?_⟩
  · obtain ⟨whole, run, deeper⟩ :=
      (transitive_deepens reachable "a" (some [EdgeType.calls]) .outgoing).1 start
    obtain ⟨near, far, run_near, run_far, grown, bounded⟩ := deeper 0 1 (by decide)
    have all : mendedRing.transitive "a" (some [EdgeType.calls]) .outgoing none =
        .ok ["b", "c"] := rfl
    have direct : mendedRing.transitive "a" (some [EdgeType.calls]) .outgoing (some 0) =
        .ok ["b"] := rfl
    obtain rfl := Except.ok.inj (all.symm.trans run)
    obtain rfl := Except.ok.inj (direct.symm.trans run_near)
    exact ⟨far, run_far, grown, bounded⟩
  · exact (transitive_deepens reachable "d" none .incoming).2 absent (some 2)

end Store

end CodeGraph

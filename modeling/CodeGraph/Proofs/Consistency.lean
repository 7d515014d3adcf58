import CodeGraph.Graph.Stats
import CodeGraph.Proofs.Multigraph
import Mathlib.Algebra.GroupWithZero.Nat

/-!
# Consistency of the two indexes

A store keeps every edge twice, at its source and at its target, and counts its edges besides. The
two indexes and the count agree in every graph that changes can make.

Main definition:

- `Store.Consistent`: how the tables of a store fit together.

Main statements:

- `Indexes.consistent`: a store that indexes one list of edges is consistent;
- `consistent_applyAll`: changes of the empty graph keep it consistent.
-/
namespace CodeGraph

namespace Table

variable {κ : Type} [DecidableEq κ]

theorem sum_insertEntry (k : κ) (n : Nat) (es : List (κ × Nat)) :
    ((insertEntry k n es).map Prod.snd).sum + (lookupEntry k es).getD 0 =
      (es.map Prod.snd).sum + n := by
  induction es with
  | nil => simp [insertEntry, lookupEntry]
  | cons e es ih =>
    by_cases h : e.1 = k
    · simp [insertEntry, lookupEntry, h]
      omega
    · simp [insertEntry, lookupEntry, h] at ih ⊢
      omega

theorem sum_foldl_tally (ks : List κ) (t : Table κ Nat) :
    (ks.foldl (fun t k => t.upsert k fun n => n.getD 0 + 1) t).values.sum =
      t.values.sum + ks.length := by
  induction ks generalizing t with
  | nil => simp
  | cons k ks ih =>
    have step := sum_insertEntry k ((t.get? k).getD 0 + 1) t.entries
    rw [List.foldl_cons, ih, List.length_cons]
    simp only [values, upsert, insert, get?] at step ⊢
    omega

/-- The counts of a tally add up to the length of the list. -/
theorem sum_tally (ks : List κ) : (tally ks).values.sum = ks.length := by
  simpa [tally, values, empty] using sum_foldl_tally ks empty

end Table

namespace Store

/-- How the tables of a store fit together. -/
structure Consistent (g : Store) : Prop where
  leaving_keys : g.leaving.keys = g.ids
  reaching_keys : g.reaching.keys = g.ids
  /-- Nodes are stored under their own ids. -/
  own_id : ∀ id n, g.node? id = some n → n.id = id
  /-- The edges in a bucket leave its node, have its type, and join two nodes. -/
  leaving_bucket : ∀ id type, ∀ e ∈ (g.leaving.bucketsAt id).ofType type,
    e.source = id ∧ e.type = type ∧ e.source ∈ g.ids ∧ e.target ∈ g.ids
  /-- The edges in a bucket reach its node, have its type, and join two nodes. -/
  reaching_bucket : ∀ id type, ∀ e ∈ (g.reaching.bucketsAt id).ofType type,
    e.target = id ∧ e.type = type ∧ e.source ∈ g.ids ∧ e.target ∈ g.ids
  /-- The edges of a type from one node to another stand in both indexes in the same order. -/
  mirror : ∀ source target type,
    ((g.leaving.bucketsAt source).ofType type).filter (fun e => e.target = target) =
      ((g.reaching.bucketsAt target).ofType type).filter fun e => e.source = source
  edgeCount_edges : g.edgeCount = g.edges.length
  edgeCount_reaching : g.edgeCount = g.reaching.allEdges.length
  edgesByType_sum : g.stats.edgesByType.values.sum = g.stats.edgeCount
  nodesByType_sum : g.stats.nodesByType.values.sum = g.stats.nodeCount
  /-- An edge that is removed at its source is found at its target. -/
  removal_found : ∀ e, (g.removeEdge? e).isSome → ∃ buckets bucket,
    g.reaching.get? e.target = some buckets ∧ buckets.get? e.type = some bucket ∧
      bucket.any e.same
  /-- What a module defines is a node, whose type can be looked at. -/
  definition_found : ∀ id, ∀ target ∈ g.neighbors id (some [EdgeType.defines]),
    ∃ n, g.node? target = some n

namespace Indexes

variable {g : Store} {m : Multigraph}

theorem mem_leaving_bucket (h : g.Indexes m) {id type : String} {e : Edge} :
    e ∈ (g.leaving.bucketsAt id).ofType type ↔ e ∈ m.edges ∧ e.source = id ∧ e.type = type := by
  rw [h.leaving, List.mem_filter, decide_eq_true_eq]

theorem mem_reaching_bucket (h : g.Indexes m) {id type : String} {e : Edge} :
    e ∈ (g.reaching.bucketsAt id).ofType type ↔ e ∈ m.edges ∧ e.target = id ∧ e.type = type := by
  rw [h.reaching, List.mem_filter, decide_eq_true_eq]

theorem mirror (h : g.Indexes m) (source target type : String) :
    ((g.leaving.bucketsAt source).ofType type).filter (fun e => e.target = target) =
      ((g.reaching.bucketsAt target).ofType type).filter fun e => e.source = source := by
  rw [h.leaving, h.reaching, List.filter_filter, List.filter_filter]
  refine List.filter_congr fun e _ => ?_
  by_cases hs : e.source = source <;> by_cases ht : e.target = target <;> simp [hs, ht]

/-- The edge removed at its source stands in the list of all edges, and so at its target. -/
theorem removal_found (h : g.Indexes m) {e : Edge} (removed : (g.removeEdge? e).isSome) :
    ∃ buckets bucket, g.reaching.get? e.target = some buckets ∧
      buckets.get? e.type = some bucket ∧ bucket.any e.same := by
  have present : m.edges.any e.same = true := by
    by_contra absent
    rw [h.removeEdge_none (by simpa using absent)] at removed
    cases removed
  obtain ⟨x, hx, same⟩ := List.any_eq_true.1 present
  obtain ⟨-, ht, hk, -⟩ := Edge.same_iff.1 same
  have listed : x ∈ (g.reaching.bucketsAt e.target).ofType e.type :=
    h.mem_reaching_bucket.2 ⟨hx, ht.symm, hk.symm⟩
  cases hb : g.reaching.get? e.target with
  | none =>
    rw [Adjacency.bucketsAt, hb] at listed
    cases listed
  | some buckets =>
    rw [Adjacency.bucketsAt, hb, Option.getD_some, Buckets.ofType] at listed
    cases hk : buckets.get? e.type with
    | none =>
      rw [hk] at listed
      cases listed
    | some bucket =>
      rw [hk, Option.getD_some] at listed
      exact ⟨buckets, bucket, rfl, hk, List.any_eq_true.2 ⟨x, listed, same⟩⟩

theorem mem_outgoing (h : g.Indexes m) {id : String} {types : List String} {e : Edge} :
    e ∈ g.outgoing id (some types) ↔ e ∈ m.edges ∧ e.source = id ∧ e.type ∈ types := by
  rw [outgoing, h.leaving.mem_edgesAt]
  simp only [Option.some.injEq, forall_eq']

theorem node_of_mem_ids {id : String} (h : id ∈ g.ids) : ∃ n, g.node? id = some n := by
  have found := contains_eq_true_iff.2 h
  exact Option.isSome_iff_exists.1 found

/-- Nodes go by their own ids, so the nodes of a type are told by ids alone. -/
theorem map_id_nodesOfType (h : g.Indexes m) (type : String) :
    (g.nodesOfType type).map Node.id = g.ids.filter (g.isOfType type) := by
  rw [h.ids_eq_map_allNodes, List.filter_map, nodesOfType]
  congr 1
  apply List.filter_congr
  intro n hn
  show _ = g.isOfType type n.id
  rw [isOfType, h.node?_of_mem_allNodes hn, Option.any_some]

theorem definition_found (h : g.Indexes m) {id target : String}
    (ht : target ∈ g.neighbors id (some [EdgeType.defines])) : ∃ n, g.node? target = some n := by
  obtain ⟨e, he, rfl⟩ := List.mem_map.1 ht
  exact node_of_mem_ids (h.ends e (h.mem_outgoing.1 he).1).2

theorem consistent (h : g.Indexes m) : g.Consistent where
  leaving_keys := h.leaving_keys
  reaching_keys := h.reaching_keys
  own_id := h.own_id
  leaving_bucket := by
    intro id type e he
    obtain ⟨listed, hs, ht⟩ := h.mem_leaving_bucket.1 he
    exact ⟨hs, ht, h.ends e listed⟩
  reaching_bucket := by
    intro id type e he
    obtain ⟨listed, ht, hk⟩ := h.mem_reaching_bucket.1 he
    exact ⟨ht, hk, h.ends e listed⟩
  mirror := h.mirror
  edgeCount_edges := by rw [edges, h.leaving.allEdges_perm.length_eq, h.edgeCount]
  edgeCount_reaching := by rw [h.reaching.allEdges_perm.length_eq, h.edgeCount]
  edgesByType_sum := by
    rw [stats, Table.sum_tally, List.length_map, edges, h.leaving.allEdges_perm.length_eq,
      h.edgeCount]
  nodesByType_sum := by
    rw [stats, Table.sum_tally, List.length_map]
    simp [nodeCount, allNodes, Table.size, Table.values]
  removal_found := fun _ => h.removal_found
  definition_found := fun _ _ => h.definition_found

end Indexes

/-- A graph that changes make of the empty one indexes some list of edges. -/
theorem Reachable.indexes {g : Store} (h : g.Reachable) : ∃ m, g.Indexes m := by
  obtain ⟨cs, rfl⟩ := h
  exact ⟨_, (Indexes.of_empty.applyAll cs).1⟩

/-- Whatever changes are made of the empty graph, also ones that fail, the two indexes, the nodes
and the count agree. Removing a node removes its edges one by one, so this holds of the graphs in
between, too. -/
theorem consistent_applyAll (cs : List Change) : (empty.applyAll cs).1.Consistent :=
  (Indexes.of_empty.applyAll cs).1.consistent

end Store

end CodeGraph

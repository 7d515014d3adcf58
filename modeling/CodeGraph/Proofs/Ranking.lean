import CodeGraph.Graph.Ranking
import CodeGraph.Proofs.Consistency
import CodeGraph.Proofs.ShuffledGraphs
import CodeGraph.Proofs.Walks
import Mathlib.Data.List.Permutation

/-!
# Functions with the most calls

A node is ranked by the calls that leave it and those that reach it, which stand in two different
indexes of the graph. The two numbers are told here from one list of all calls. So every call is
counted once at its source and once at its target, and the calls at all nodes are twice the calls of
the graph.

Main definitions:

- `Store.calls`: the calls of a graph, parallel ones one by one;
- `Store.callsAt`: the number of calls at a node;
- `Store.RanksBefore`: the order of the ranking;
- `Store.Selects`: a node has one of the types that are asked for.

Main statements:

- `sum_map_countP`: counts for keys that exclude each other add up;
- `Store.Indexes.sum_callsAt`: the calls at all nodes;
- `Store.mostConnected_exact`: which nodes are listed, and in which order.
-/
namespace CodeGraph

/-! ## Counting by keys -/

section Counting

variable {α κ : Type}

/-- Members that one of two tests accepts, when none is accepted by both. -/
theorem countP_or_of_disjoint {p q : α → Bool} (apart : ∀ a, p a = true → q a = false)
    (as : List α) : as.countP (fun a => p a || q a) = as.countP p + as.countP q := by
  induction as with
  | nil => rfl
  | cons a as ih =>
    rw [List.countP_cons, List.countP_cons, List.countP_cons, ih]
    cases accepted : p a with
    | false =>
      rw [Bool.false_or, if_neg Bool.false_ne_true]
      omega
    | true =>
      rw [apart a accepted, Bool.true_or, if_pos rfl, if_neg Bool.false_ne_true]
      omega

/-- Counts for keys that exclude each other add up to a count for all of them. -/
theorem sum_map_countP {p : κ → α → Bool} {ks : List κ}
    (apart : ks.Pairwise fun j k => ∀ a, p j a = true → p k a = false) (as : List α) :
    (ks.map fun k => as.countP (p k)).sum = as.countP fun a => ks.any fun k => p k a := by
  induction ks with
  | nil => simp
  | cons k ks ih =>
    obtain ⟨first, later⟩ := List.pairwise_cons.1 apart
    have none_later : ∀ a, p k a = true → (ks.any fun j => p j a) = false := by
      intro a accepted
      rw [List.any_eq_false]
      intro j hj
      simp [first j hj a accepted]
    simp only [List.map_cons, List.sum_cons, List.any_cons, ih later,
      countP_or_of_disjoint none_later]

/-- When every member has one of some distinct keys, the members of all keys are all members. -/
theorem sum_map_countP_key [DecidableEq κ] (keyOf : α → κ) {ks : List κ} (distinct : ks.Nodup)
    {as : List α} (all : ∀ a ∈ as, keyOf a ∈ ks) :
    (ks.map fun k => as.countP fun a => keyOf a = k).sum = as.length := by
  have apart : ks.Pairwise fun j k => ∀ a, decide (keyOf a = j) = true →
      decide (keyOf a = k) = false := by
    apply distinct.imp
    intro j k other a here
    rw [of_decide_eq_true here]
    exact decide_eq_false other
  rw [sum_map_countP apart, List.countP_eq_length]
  intro a ha
  simpa using all a ha

end Counting

namespace Store

variable {g : Store} {m : Multigraph} {id : String} {nodeTypes : Option (List String)}
  {limit : Int}

/-! ## Calls at a node -/

/-- The calls of a graph. Several calls of one function by another are listed one by one. -/
def calls (g : Store) : List Edge := g.edges.filter fun e => e.type = EdgeType.calls

/-- The number of calls that leave a node and of those that reach it. A call of a function by itself
does both, and counts twice. -/
def callsAt (g : Store) (id : String) : Nat :=
  g.calls.countP (fun e => e.source = id) + g.calls.countP (fun e => e.target = id)

theorem Indexes.calls_perm (h : g.Indexes m) :
    g.calls.Perm (m.edges.filter fun e => e.type = EdgeType.calls) :=
  h.leaving.allEdges_perm.filter _

/-- Each index of the calls lists at a node the calls that have this end there. -/
theorem Indexes.length_edgesAt_calls (h : g.Indexes m) {a : Adjacency} {endOf : Edge → String}
    (lists : a.Lists endOf m.edges) (id : String) :
    (a.edgesAt id (some [EdgeType.calls])).length = g.calls.countP fun e => endOf e = id := by
  have single : [EdgeType.calls].eraseDups = [EdgeType.calls] := rfl
  rw [lists.edgesAt_some, single, List.flatMap_singleton, h.calls_perm.countP_eq,
    List.countP_filter, List.countP_eq_length_filter]
  congr 2
  funext e
  simp

theorem Indexes.connectivity_rank (h : g.Indexes m) (id : String) :
    (g.rank id).connectivity = g.callsAt id := by
  have reaching : g.inDegree id (some [EdgeType.calls]) = _ :=
    h.length_edgesAt_calls h.reaching id
  have leaving : g.outDegree id (some [EdgeType.calls]) = _ := h.length_edgesAt_calls h.leaving id
  rw [rank, callsAt, reaching, leaving, Nat.add_comm]

/-- Every call is counted at both of its ends. -/
theorem Indexes.sum_callsAt (h : g.Indexes m) : (g.ids.map g.callsAt).sum = 2 * g.calls.length := by
  have distinct : g.ids.Nodup := g.nodes.nodup_keys'
  have ends : ∀ e ∈ g.calls, e.source ∈ g.ids ∧ e.target ∈ g.ids := by
    intro e he
    have listed := (List.mem_filter.1 (h.calls_perm.mem_iff.1 he)).1
    exact h.ends e listed
  have leaving := sum_map_countP_key Edge.source distinct fun e he => (ends e he).1
  have reaching := sum_map_countP_key Edge.target distinct fun e he => (ends e he).2
  unfold callsAt
  rw [List.sum_map_add, leaving, reaching, Nat.two_mul]

/-- The counts of a graph tell how many calls there are. -/
theorem edgesByType_calls (g : Store) :
    (g.stats.edgesByType.get? EdgeType.calls).getD 0 = g.calls.length := by
  unfold stats calls
  rw [Table.get?_tally, List.count_eq_countP, List.countP_map, List.countP_eq_length_filter]
  rfl

/-! ## Selected nodes -/

/-- An id is a node of one of some types, or of whatever type. -/
def Selects (g : Store) (nodeTypes : Option (List String)) (id : String) : Prop :=
  ∃ n, g.node? id = some n ∧ ∀ types, nodeTypes = some types → n.type ∈ types

theorem mem_scope_iff : id ∈ g.scope nodeTypes ↔ g.Selects nodeTypes id := by
  unfold Selects node?
  cases nodeTypes with
  | none =>
    rw [scope, ← contains_eq_true_iff, contains, Table.contains, Option.isSome_iff_exists]
    simp
  | some types =>
    simp only [scope, List.mem_map, List.mem_filter, List.contains_iff_mem, Table.get?_eq_some_iff,
      Option.some.injEq, forall_eq', Prod.exists]
    constructor
    · rintro ⟨id, n, ⟨listed, admitted⟩, rfl⟩
      exact ⟨n, listed, admitted⟩
    · rintro ⟨n, listed, admitted⟩
      exact ⟨id, n, ⟨listed, admitted⟩, rfl⟩

theorem nodup_scope (g : Store) (nodeTypes : Option (List String)) : (g.scope nodeTypes).Nodup :=
  nodup_selected g ⟨nodeTypes, none⟩

/-! ## The ranking -/

/-- Whether a node comes before another in the ranking: by more calls, then by the smaller id. -/
def RanksBefore (g : Store) (a b : String) : Prop :=
  g.callsAt b < g.callsAt a ∨ g.callsAt a = g.callsAt b ∧ a < b

/-- All selected nodes in the order of the ranking. -/
def ranking (g : Store) (nodeTypes : Option (List String)) : List RankedNode :=
  ((g.scope nodeTypes).map g.rank).mergeSort RankedNode.before

theorem mostConnected_of_nonneg (g : Store) (nodeTypes : Option (List String))
    (nonneg : 0 ≤ limit) :
    g.mostConnected limit nodeTypes = (g.ranking nodeTypes).take limit.toNat := by
  unfold mostConnected takeUpTo
  rw [if_pos nonneg]
  rfl

theorem ranking_perm (g : Store) (nodeTypes : Option (List String)) :
    (g.ranking nodeTypes).Perm ((g.scope nodeTypes).map g.rank) := List.mergeSort_perm _ _

theorem map_id_ranking_perm (g : Store) (nodeTypes : Option (List String)) :
    ((g.ranking nodeTypes).map RankedNode.id).Perm (g.scope nodeTypes) := by
  have ranked := (g.ranking_perm nodeTypes).map RankedNode.id
  rw [List.map_map] at ranked
  exact ranked.trans (.of_eq (List.map_id _))

theorem nodup_map_id_ranking (g : Store) (nodeTypes : Option (List String)) :
    ((g.ranking nodeTypes).map RankedNode.id).Nodup :=
  (g.map_id_ranking_perm nodeTypes).nodup_iff.2 (g.nodup_scope nodeTypes)

theorem length_ranking (g : Store) (nodeTypes : Option (List String)) :
    (g.ranking nodeTypes).length = (g.scope nodeTypes).length := by
  rw [(g.ranking_perm nodeTypes).length_eq, List.length_map]

theorem eq_rank_of_mem_ranking {r : RankedNode} (hr : r ∈ g.ranking nodeTypes) :
    r.id ∈ g.scope nodeTypes ∧ r = g.rank r.id := by
  obtain ⟨id, hid, rfl⟩ := List.mem_map.1 ((g.ranking_perm nodeTypes).mem_iff.1 hr)
  exact ⟨hid, rfl⟩

/-- Of nodes with different ids, one comes strictly before the other. -/
theorem Indexes.ranksBefore_of_before (h : g.Indexes m) {r s : RankedNode}
    (hr : r ∈ g.ranking nodeTypes) (hs : s ∈ g.ranking nodeTypes) (other : r.id ≠ s.id)
    (before : r.before s = true) : g.RanksBefore r.id s.id := by
  have calls_r : r.connectivity = g.callsAt r.id := by
    rw [← h.connectivity_rank, ← (eq_rank_of_mem_ranking hr).2]
  have calls_s : s.connectivity = g.callsAt s.id := by
    rw [← h.connectivity_rank, ← (eq_rank_of_mem_ranking hs).2]
  unfold RanksBefore
  rw [← calls_r, ← calls_s]
  have compared : SharedDependency.pairBefore (r.id, r.connectivity) (s.id, s.connectivity) =
      true := before
  rcases SharedDependency.pairBefore_iff.1 compared with more | ⟨even, name⟩
  · exact .inl more
  · right
    refine ⟨even, ?_⟩
    apply String.not_le.1
    intro after
    exact other (String.le_antisymm name after)

/-- The ranking is strict, as no two nodes have the same id. -/
theorem Indexes.pairwise_ranking (h : g.Indexes m) (nodeTypes : Option (List String)) :
    (g.ranking nodeTypes).Pairwise fun r s => g.RanksBefore r.id s.id := by
  have sorted : (g.ranking nodeTypes).Pairwise fun r s => r.before s = true := by
    apply List.pairwise_mergeSort
    · intro a b c
      exact SharedDependency.pairBefore_trans (a.id, a.connectivity) (b.id, b.connectivity)
        (c.id, c.connectivity)
    · intro a b
      exact SharedDependency.pairBefore_total (a.id, a.connectivity) (b.id, b.connectivity)
  have distinct : (g.ranking nodeTypes).Pairwise fun r s => r.id ≠ s.id :=
    List.pairwise_map.1 (g.nodup_map_id_ranking nodeTypes)
  refine (sorted.and distinct).imp_of_mem ?_
  rintro r s hr hs ⟨before, other⟩
  exact h.ranksBefore_of_before hr hs other before

/-- What the ranking lists up to a place comes before what is left out. -/
theorem Indexes.ranksBefore_of_left_out (h : g.Indexes m) {k : Nat}
    (selected : id ∈ g.scope nodeTypes)
    (out : id ∉ ((g.ranking nodeTypes).take k).map RankedNode.id) {r : RankedNode}
    (hr : r ∈ (g.ranking nodeTypes).take k) : g.RanksBefore r.id id := by
  have listed : g.rank id ∈ (g.ranking nodeTypes).take k ++ (g.ranking nodeTypes).drop k := by
    rw [List.take_append_drop, (g.ranking_perm nodeTypes).mem_iff]
    exact List.mem_map_of_mem selected
  have late : g.rank id ∈ (g.ranking nodeTypes).drop k := by
    refine (List.mem_append.1 listed).resolve_left fun early => out ?_
    exact List.mem_map_of_mem (f := RankedNode.id) early
  have split := h.pairwise_ranking nodeTypes
  rw [← List.take_append_drop k (g.ranking nodeTypes)] at split
  exact (List.pairwise_append.1 split).2.2 r hr _ late

/-- The calls at all nodes of the ranking of all nodes. -/
theorem Indexes.sum_connectivity_ranking (h : g.Indexes m) :
    ((g.ranking none).map RankedNode.connectivity).sum = 2 * g.calls.length := by
  have numbers : (g.ids.map g.rank).map RankedNode.connectivity = g.ids.map g.callsAt := by
    rw [List.map_map]
    apply List.map_congr_left
    intro id _
    exact h.connectivity_rank id
  rw [((g.ranking_perm none).map RankedNode.connectivity).sum_eq, ← h.sum_callsAt, ← numbers]
  rfl

/-- The nodes with the most calls. As many are listed as are asked for, or as there are, each once,
with the number of calls that leave them and reach them. More calls come first, and of as many the
smaller id. What is left out comes after all that is listed. When all nodes are listed, every call
of the graph is counted twice. -/
theorem mostConnected_exact (h : g.Reachable) (nodeTypes : Option (List String))
    (nonneg : 0 ≤ limit) :
    let found := g.mostConnected limit nodeTypes
    (∃ selected : Finset String, (∀ id, id ∈ selected ↔ g.Selects nodeTypes id) ∧
      (found.length : Int) = min limit selected.card) ∧
    (found.map RankedNode.id).Nodup ∧
    (∀ r ∈ found, g.Selects nodeTypes r.id ∧ r.connectivity = g.callsAt r.id ∧
      ∃ n, g.node? r.id = some n ∧ r.name = n.name) ∧
    found.Pairwise (fun r s => g.RanksBefore r.id s.id) ∧
    (∀ id, g.Selects nodeTypes id → id ∉ found.map RankedNode.id →
      ∀ r ∈ found, g.RanksBefore r.id id) ∧
    (nodeTypes = none → (g.nodeCount : Int) ≤ limit →
      (found.map RankedNode.connectivity).sum =
        2 * (g.stats.edgesByType.get? EdgeType.calls).getD 0) := by
  obtain ⟨m, indexes⟩ := h.indexes
  have taken := g.mostConnected_of_nonneg nodeTypes nonneg
  simp only [taken]
  refine ⟨⟨(g.scope nodeTypes).toFinset, ?_, ?_⟩, ?_, ?_, ?_, ?_, ?_⟩
  · intro id
    rw [List.mem_toFinset, mem_scope_iff]
  · rw [List.toFinset_card_of_nodup (g.nodup_scope nodeTypes), List.length_take, length_ranking]
    omega
  · exact ((List.take_sublist _ _).map _).nodup (g.nodup_map_id_ranking nodeTypes)
  · intro r hr
    obtain ⟨selected, ranked⟩ := eq_rank_of_mem_ranking (List.mem_of_mem_take hr)
    obtain ⟨n, node, admitted⟩ := mem_scope_iff.1 selected
    refine ⟨⟨n, node, admitted⟩, ?_, n, node, ?_⟩
    · rw [← indexes.connectivity_rank, ← ranked]
    · rw [ranked]
      simp [rank, node]
  · exact (indexes.pairwise_ranking nodeTypes).sublist (List.take_sublist _ _)
  · intro id selected out r hr
    exact indexes.ranksBefore_of_left_out (mem_scope_iff.2 selected) out hr
  · rintro rfl enough
    have all : (g.ranking none).take limit.toNat = g.ranking none := by
      apply List.take_of_length_le
      rw [length_ranking, scope, length_ids]
      omega
    rw [all, indexes.sum_connectivity_ranking, edgesByType_calls]

/-- Of two functions with two calls each, the one with the larger id is left out. The function that
comes first calls itself, which counts twice. -/
theorem mostConnected_exact_mendedRing :
    mendedRing.Reachable ∧ (0 : Int) ≤ 2 ∧
    (mendedRing.mostConnected 2 none).map RankedNode.id = ["b", "a"] ∧
    mendedRing.RanksBefore "a" "c" ∧
    ((mendedRing.mostConnected 3 none).map RankedNode.connectivity).sum = 2 * 4 := by
  have reachable : mendedRing.Reachable := ⟨_, rfl⟩
  have selected : mendedRing.Selects none "c" :=
    mem_scope_iff.1 (by decide : "c" ∈ mendedRing.scope none)
  have two : (0 : Int) ≤ 2 := by decide
  have three : (0 : Int) ≤ 3 := by decide
  have listed : (mendedRing.mostConnected 2 none).map RankedNode.id = ["b", "a"] := by cbv
  obtain ⟨-, -, -, -, left_out, -⟩ := mostConnected_exact reachable none two
  obtain ⟨-, -, -, -, -, all⟩ := mostConnected_exact reachable none three
  refine ⟨reachable, two, listed, ?_, all rfl (by decide)⟩
  have last : "a" ∈ (mendedRing.mostConnected 2 none).map RankedNode.id := by simp [listed]
  obtain ⟨r, hr, same⟩ := List.mem_map.1 last
  rw [← same]
  exact left_out "c" selected (by simp [listed]) r hr

end Store

end CodeGraph

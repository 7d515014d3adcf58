import CodeGraph.Proofs.Building
import CodeGraph.Proofs.OrderPermutation
import CodeGraph.Proofs.VersionConflicts

/-!
# Graphs that came about in another order

Two graphs with the same nodes and the same edges may differ in the order in which these were added.
The lists that a graph answers with are then the same up to their order, and what is computed from
them and sorted by itself is the same altogether.

Main definitions:

- `Store.Shuffled`: two graphs hold the same nodes and edges in any orders.

Main statements:

- `Shuffled.selected_perm`, `Shuffled.outgoing_perm`, `Shuffled.incoming_perm`: the nodes and the
  edges at a node;
- `Shuffled.topologicalOrder_eq`, `Shuffled.upgradeOrder_eq`: the order of the nodes;
- `Shuffled.sharedDependencies_eq`: the shared dependencies with their counts;
- `Shuffled.isOk_versionConflicts_eq`, `Shuffled.versionConflicts_perm`: the conflicting
  dependencies with their major versions.
-/
namespace CodeGraph

/-! ## Lists in any order -/

/-- Sorting forgets the order that a list had before. -/
theorem mergeSort_eq_of_perm {α : Type} {le : α → α → Bool}
    (trans : ∀ a b c, le a b = true → le b c = true → le a c = true)
    (total : ∀ a b, (le a b || le b a) = true)
    (antisymm : ∀ a b, le a b = true → le b a = true → a = b) {as bs : List α}
    (same : as.Perm bs) : as.mergeSort le = bs.mergeSort le := by
  have sorted (l : List α) := List.pairwise_mergeSort trans total l
  refine List.Perm.eq_of_pairwise (fun a b _ _ => antisymm a b) (sorted as) (sorted bs) ?_
  exact ((List.mergeSort_perm as le).trans same).trans (List.mergeSort_perm bs le).symm

theorem eraseDups_perm {α : Type} [DecidableEq α] {as bs : List α} (same : as.Perm bs) :
    as.eraseDups.Perm bs.eraseDups := by
  refine (List.perm_ext_iff_of_nodup (nodup_eraseDups as) (nodup_eraseDups bs)).2 fun a => ?_
  rw [List.mem_eraseDups, List.mem_eraseDups, same.mem_iff]

/-! ## Orders of what is reported -/

/-- Whether a dependency with its count comes before another one: by the higher count, then by the
smaller name. -/
def SharedDependency.pairBefore (a b : String × Nat) : Bool :=
  b.2 < a.2 || (a.2 == b.2 && a.1 ≤ b.1)

theorem SharedDependency.pairBefore_iff {a b : String × Nat} :
    pairBefore a b = true ↔ b.2 < a.2 ∨ a.2 = b.2 ∧ a.1 ≤ b.1 := by
  simp [pairBefore]

theorem SharedDependency.pairBefore_trans (a b c : String × Nat) :
    pairBefore a b = true → pairBefore b c = true → pairBefore a c = true := by
  rw [pairBefore_iff, pairBefore_iff, pairBefore_iff]
  rintro (more | ⟨even, name⟩) (more' | ⟨even', name'⟩)
  · exact .inl (more'.trans more)
  · exact .inl (even' ▸ more)
  · exact .inl (even ▸ more')
  · exact .inr ⟨even.trans even', String.le_trans name name'⟩

theorem SharedDependency.pairBefore_total (a b : String × Nat) :
    (pairBefore a b || pairBefore b a) = true := by
  rw [Bool.or_eq_true, pairBefore_iff, pairBefore_iff]
  rcases Nat.lt_trichotomy a.2 b.2 with fewer | even | more
  · exact .inr (.inl fewer)
  · exact (String.le_total a.1 b.1).imp (fun name => .inr ⟨even, name⟩)
      fun name => .inr ⟨even.symm, name⟩
  · exact .inl (.inl more)

theorem SharedDependency.mergeSort_pairBefore_eq {as bs : List (String × Nat)}
    (same : as.Perm bs) : as.mergeSort pairBefore = bs.mergeSort pairBefore := by
  refine mergeSort_eq_of_perm pairBefore_trans pairBefore_total (fun a b => ?_) same
  rw [pairBefore_iff, pairBefore_iff]
  rintro (more | ⟨even, name⟩) (more' | ⟨even', name'⟩)
  · exact absurd more more'.asymm
  · exact absurd even' more.ne
  · exact absurd even more'.ne
  · exact Prod.ext (String.le_antisymm name name') even

theorem majorsOf_eq_of_perm {ds ds' : List (String × Declaration)} (same : ds.Perm ds')
    (dependency : String) : majorsOf ds dependency = majorsOf ds' dependency := by
  refine mergeSort_eq_of_perm (fun a b c => ?_) (fun a b => ?_) (fun a b => ?_)
    (eraseDups_perm (((same.filter _).map Prod.snd).filterMap _))
  · simpa using fun h h' => Nat.le_trans h h'
  · simpa using Nat.le_total a b
  · simpa using fun h h' => Nat.le_antisymm h h'

theorem Table.keys_group_perm {κ ν : Type} [DecidableEq κ] {es es' : List (κ × ν)}
    (same : es.Perm es') : (group es).keys.Perm (group es').keys := by
  refine (List.perm_ext_iff_of_nodup (nodup_keys' _) (nodup_keys' _)).2 fun k => ?_
  rw [mem_keys_group, mem_keys_group, (same.map Prod.fst).mem_iff]

namespace Store

/-- Two graphs hold the same nodes and the same edges, which may have come in different orders. -/
structure Shuffled (g h : Store) : Prop where
  node?_eq : ∀ id, g.node? id = h.node? id
  indexes : ∃ m k, g.Indexes m ∧ h.Indexes k ∧ m.edges.Perm k.edges

theorem Holds.shuffled {g h : Store} {look : String → Option Node} {es es' : List Edge}
    (hg : g.Holds look es) (hh : h.Holds look es') (same : es.Perm es') : g.Shuffled h where
  node?_eq := fun id => by rw [hg.node?_eq, hh.node?_eq]
  indexes := by
    obtain ⟨m, hm, rfl⟩ := hg.indexes
    obtain ⟨k, hk, rfl⟩ := hh.indexes
    exact ⟨m, k, hm, hk, same⟩

namespace Shuffled

variable {g h : Store}

theorem alike (s : g.Shuffled h) : g.Alike h where
  node?_eq := s.node?_eq
  edges_perm := by
    obtain ⟨m, k, hm, hk, same⟩ := s.indexes
    exact (hm.leaving.allEdges_perm.trans same).trans hk.leaving.allEdges_perm.symm

/-! ## Nodes -/

theorem entries_perm (s : g.Shuffled h) : g.nodes.entries.Perm h.nodes.entries := by
  refine (List.perm_ext_iff_of_nodup (.of_map _ g.nodes.nodup_keys)
    (.of_map _ h.nodes.nodup_keys)).2 fun e => ?_
  rw [← Table.get?_eq_some_iff, ← Table.get?_eq_some_iff]
  exact Eq.congr_left (s.node?_eq e.1)

theorem ids_perm (s : g.Shuffled h) : g.ids.Perm h.ids := s.entries_perm.map Prod.fst

theorem nodesOfType_perm (s : g.Shuffled h) (type : String) :
    (g.nodesOfType type).Perm (h.nodesOfType type) :=
  (s.entries_perm.map Prod.snd).filter _

theorem selected_perm (s : g.Shuffled h) (selection : Selection) :
    (g.selected selection).Perm (h.selected selection) := by
  obtain ⟨nodeTypes, edgeTypes⟩ := selection
  cases nodeTypes with
  | none => exact s.ids_perm
  | some types => exact (s.entries_perm.filter _).map Prod.fst

/-! ## Edges -/

theorem edgesAt_perm {a b : Adjacency} {f : Edge → String} {es es' : List Edge}
    (ha : a.Lists f es) (hb : b.Lists f es') (same : es.Perm es') (id : String)
    (types : Option (List String)) : (a.edgesAt id types).Perm (b.edgesAt id types) := by
  cases types with
  | none =>
    exact ((ha.edgesAt_none_perm id).trans (same.filter _)).trans (hb.edgesAt_none_perm id).symm
  | some types =>
    rw [ha.edgesAt_some, hb.edgesAt_some]
    exact List.Perm.flatMap_left _ fun t _ => same.filter _

theorem outgoing_perm (s : g.Shuffled h) (id : String) (types : Option (List String)) :
    (g.outgoing id types).Perm (h.outgoing id types) := by
  obtain ⟨m, k, hm, hk, same⟩ := s.indexes
  exact edgesAt_perm hm.leaving hk.leaving same id types

theorem incoming_perm (s : g.Shuffled h) (id : String) (types : Option (List String)) :
    (g.incoming id types).Perm (h.incoming id types) := by
  obtain ⟨m, k, hm, hk, same⟩ := s.indexes
  exact edgesAt_perm hm.reaching hk.reaching same id types

theorem selectedSuccessors_perm (s : g.Shuffled h) (selection : Selection) (id : String) :
    (g.selectedSuccessors selection id).Perm (h.selectedSuccessors selection id) := by
  have members : (g.selected selection).contains = (h.selected selection).contains := by
    funext v
    rw [Bool.eq_iff_iff, List.contains_iff_mem, List.contains_iff_mem,
      (s.selected_perm selection).mem_iff]
  simp only [selectedSuccessors, successors, members]
  exact ((s.outgoing_perm id selection.edgeTypes).map _).filter _

/-! ## Orders -/

theorem demands_perm (s : g.Shuffled h) (selection : Selection) (reverse : Bool) :
    (g.demands selection reverse).Perm (h.demands selection reverse) :=
  (s.selected_perm selection).flatMap fun id _ => (s.selectedSuccessors_perm selection id).map _

/-- The topological order does not hang on the order in which a graph came about. -/
theorem topologicalOrder_eq (s : g.Shuffled h) (selection : Selection) (reverse : Bool) :
    g.topologicalOrder selection reverse = h.topologicalOrder selection reverse := by
  have nodes := s.selected_perm selection
  rw [topologicalOrder, topologicalOrder, orderUnder_perm nodes (s.demands_perm selection reverse),
    nodes.length_eq]

theorem upgradeOrder_eq (s : g.Shuffled h) : g.upgradeOrder = h.upgradeOrder := by
  rw [upgradeOrder, upgradeOrder, s.topologicalOrder_eq]

/-! ## Dependencies -/

/-- A package has the same number of users, though these may be listed in another order. -/
theorem sharedDependencies_eq (s : g.Shuffled h) (minCount : Int) :
    (g.sharedDependencies minCount).map (fun d => (d.dependency, d.count)) =
      (h.sharedDependencies minCount).map fun d => (d.dependency, d.count) := by
  have sorted (g : Store) :
      (g.sharedDependencies minCount).map (fun d => (d.dependency, d.count)) =
        (((g.nodesOfType NodeType.dependency).map fun n => (n.id,
          (g.predecessors n.id (some EdgeType.dependencyLike)).eraseDups.length)).filter
            fun d => minCount ≤ d.2).mergeSort SharedDependency.pairBefore := by
    have pairs (ds : List SharedDependency) :
        (ds.mergeSort SharedDependency.before).map (fun d => (d.dependency, d.count)) =
          (ds.map fun d => (d.dependency, d.count)).mergeSort SharedDependency.pairBefore :=
      List.map_mergeSort fun _ _ _ _ => rfl
    rw [sharedDependencies, pairs, List.filter_map, List.map_map, List.filter_map]
    rfl
  have users (id : String) :
      (g.predecessors id (some EdgeType.dependencyLike)).eraseDups.length =
        (h.predecessors id (some EdgeType.dependencyLike)).eraseDups.length :=
    (eraseDups_perm ((s.incoming_perm id _).map _)).length_eq
  rw [sorted, sorted]
  simp only [users]
  exact SharedDependency.mergeSort_pairBefore_eq (((s.nodesOfType_perm _).map _).filter _)

theorem declarations_perm (s : g.Shuffled h) : g.declarations.Perm h.declarations :=
  ((s.nodesOfType_perm NodeType.repo).map _).flatMap fun repo _ =>
    (s.outgoing_perm repo _).filterMap _

/-- Conflicts can be told for both graphs or for none. -/
theorem isOk_versionConflicts_eq (s : g.Shuffled h) :
    g.versionConflicts.isOk = h.versionConflicts.isOk := by
  rw [Bool.eq_iff_iff, isOk_versionConflicts_iff, isOk_versionConflicts_iff]
  exact forall_congr' fun d => by rw [s.declarations_perm.mem_iff]

/-- The same dependencies are in conflict, with the same major versions. -/
theorem versionConflicts_perm (s : g.Shuffled h) {found found' : List VersionConflict}
    (run : g.versionConflicts = .ok found) (run' : h.versionConflicts = .ok found') :
    (found.map fun c => (c.dependency, c.majors)).Perm
      (found'.map fun c => (c.dependency, c.majors)) := by
  obtain ⟨_, told, conflicts⟩ := exists_versionConflicts (readable_of_versionConflicts_eq_ok run)
  obtain ⟨_, told', conflicts'⟩ := exists_versionConflicts (readable_of_versionConflicts_eq_ok run')
  obtain rfl := Except.ok.inj (run.symm.trans told)
  obtain rfl := Except.ok.inj (run'.symm.trans told')
  rw [conflicts, conflicts']
  simp only [majorsOf_eq_of_perm s.declarations_perm]
  exact ((Table.keys_group_perm s.declarations_perm).map _).filter _

end Shuffled

end Store

end CodeGraph

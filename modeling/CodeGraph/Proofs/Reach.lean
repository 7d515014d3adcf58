import CodeGraph.Graph.Selection
import CodeGraph.Proofs.Consistency
import Mathlib.Algebra.GroupWithZero.Nat
import Mathlib.Algebra.Order.BigOperators.Group.List
import Mathlib.Algebra.Order.Group.Nat
import Mathlib.Data.Fintype.EquivFin
import Mathlib.Data.List.Nodup
import Mathlib.Logic.Relation
import Mathlib.Order.WellFounded

/-!
# What reaches what

Analyses follow successors. Here is what the successors inside a selection say about the edges of
the graph, and the words for paths and cycles that the analyses are judged by.

Main definitions:

- `Reaches`, `OnCycle`: paths and cycles along a successor function;
- `cost`, `costWithout`: the steps that a search takes for one id, and for all that it did not meet;
- `pushes`: the ids that the steps of a search push on its stack;
- `Store.Joins`: an edge of a selection joins two of its nodes.

Main statements:

- `exists_cycle`: finitely many ids that each come after another one run in a circle;
- `mem_met_iterate`, `nodup_pushes`: when a step only pushes what is new, nothing is pushed twice;
- `Reachable.mem_selectedSuccessors_iff`: successors inside a selection are joined by its edges;
- `Reachable.reaches_iff`, `Reachable.onCycle_iff`: so are the ends of paths and cycles.
-/
namespace CodeGraph

/-- One id follows another. -/
def Follows (next : String → List String) (u v : String) : Prop := v ∈ next u

/-- A path leads from one id to another, perhaps without an edge. -/
def Reaches (next : String → List String) : String → String → Prop :=
  Relation.ReflTransGen (Follows next)

/-- A path with at least one edge leads from an id back to it. -/
def OnCycle (next : String → List String) (u : String) : Prop :=
  Relation.TransGen (Follows next) u u

/-- A set of ids that no edge leaves is not left by a path. -/
theorem Reaches.stays {next : String → List String} {p : String → Prop}
    (closed : ∀ u, p u → ∀ v ∈ next u, p v) {u v : String} (h : Reaches next u v) (hu : p u) :
    p v := by
  induction h with
  | refl => exact hu
  | tail _ edge ih => exact closed _ ih _ edge

/-- Whoever goes to an id on a cycle and back is on a cycle too. -/
theorem OnCycle.of_mutual {next : String → List String} {u v : String} (h : OnCycle next u)
    (there : Reaches next u v) (back : Reaches next v u) : OnCycle next v :=
  (Relation.TransGen.trans_right back h).trans_left there

/-- When each of finitely many ids comes after another one of them, they run in a circle. -/
theorem exists_cycle {r : String → String → Prop} {ids : List String} {v : String} (hv : v ∈ ids)
    (h : ∀ v ∈ ids, ∃ u ∈ ids, r u v) : ∃ u ∈ ids, Relation.TransGen r u u := by
  by_contra acyclic
  let before (a b : { u // u ∈ ids }) : Prop := Relation.TransGen r a.1 b.1
  have : IsTrans { u // u ∈ ids } before := ⟨fun _ _ _ => Relation.TransGen.trans⟩
  have : Std.Irrefl before := ⟨fun a cycle => acyclic ⟨a.1, a.2, cycle⟩⟩
  have wf : WellFounded before := Finite.wellFounded_of_trans_of_irrefl before
  obtain ⟨least, -, minimal⟩ := wf.has_min Set.univ ⟨⟨v, hv⟩, trivial⟩
  obtain ⟨u, hu, edge⟩ := h least.1 least.2
  exact minimal ⟨u, hu⟩ trivial (.single edge)

/-! ## The steps of a search -/

/-- The steps that an id takes: one to leave it, and one for each of its successors. -/
def cost (next : String → List String) (id : String) : Nat := 1 + (next id).length

/-- The steps that all ids take which are not in a list. -/
def costWithout (next : String → List String) (all met : List String) : Nat :=
  ((all.filter fun v => v ∉ met).map (cost next)).sum

theorem sum_cost (next : String → List String) (all : List String) :
    (all.map (cost next)).sum = all.length + (all.map fun v => (next v).length).sum := by
  induction all with
  | nil => rfl
  | cons v all ih =>
    rw [List.map_cons, List.map_cons, List.sum_cons, List.sum_cons, ih, List.length_cons, cost]
    omega

theorem costWithout_congr {next : String → List String} {all met met' : List String}
    (same : ∀ v, v ∈ met ↔ v ∈ met') : costWithout next all met = costWithout next all met' := by
  simp only [costWithout, same]

theorem costWithout_le (next : String → List String) (all met : List String) :
    costWithout next all met ≤ (all.map (cost next)).sum :=
  (List.filter_sublist.map (cost next)).sum_le_sum (fun _ _ => Nat.zero_le _)

/-- An id that is met takes its steps along. -/
theorem costWithout_eq_add {next : String → List String} {all met met' : List String}
    (distinct : all.Nodup) {id : String} (hid : id ∈ all) (fresh : id ∉ met)
    (grown : ∀ v, v ∈ met' ↔ v ∈ met ∨ v = id) :
    costWithout next all met = cost next id + costWithout next all met' := by
  have listed : id ∈ all.filter fun v => v ∉ met := by simp [hid, fresh]
  have others : (all.filter fun v => v ∉ met).erase id = all.filter fun v => v ∉ met' := by
    rw [(distinct.filter _).erase_eq_filter, List.filter_filter]
    refine List.filter_congr fun v _ => ?_
    by_cases same : v = id <;> simp [same, grown]
  rw [costWithout, costWithout, ← others, ((List.perm_cons_erase listed).map (cost next)).sum_eq,
    List.map_cons, List.sum_cons]

theorem foldl_length (f : String → List String) (ids : List String) (n : Nat) :
    ids.foldl (fun n id => n + (f id).length) n = n + (ids.map fun id => (f id).length).sum := by
  induction ids generalizing n with
  | nil => rfl
  | cons id ids ih => rw [List.foldl_cons, ih, List.map_cons, List.sum_cons, Nat.add_assoc]

/-! ## What a search pushes on its stack -/

section Pushes

variable {σ : Type} {step : σ → σ} {stack met : σ → List String} {s t : σ}

/-- The id that stands on top of a list which is otherwise as it was before. -/
def pushed? (before : List String) : List String → Option String
  | [] => none
  | v :: rest => if rest = before then some v else none

/-- The ids that so many steps push on a stack, the first one first. -/
def pushes (step : σ → σ) (stack : σ → List String) : Nat → σ → List String
  | 0, _ => []
  | n + 1, s => (pushed? (stack s) (stack (step s))).toList ++ pushes step stack n (step s)

theorem pushed?_eq_some_iff {before after : List String} {v : String} :
    pushed? before after = some v ↔ after = v :: before := by
  cases after with
  | nil => simp [pushed?]
  | cons w rest => simp [pushed?, and_comm]

/-- A step meets the id that it pushes, which was not met before, and no other one. -/
structure MeetsPushed (met stack : σ → List String) (s t : σ) : Prop where
  fresh : ∀ v, pushed? (stack s) (stack t) = some v → v ∉ met s
  mem_iff : ∀ v, v ∈ met t ↔ v ∈ met s ∨ pushed? (stack s) (stack t) = some v

theorem MeetsPushed.of_push {id : String} (fresh : id ∉ met s) (pushed : stack t = id :: stack s)
    (mem_iff : ∀ v, v ∈ met t ↔ v ∈ met s ∨ v = id) : MeetsPushed met stack s t where
  fresh := by
    intro v top
    rw [pushed?_eq_some_iff, pushed] at top
    rwa [← (List.cons.inj top).1]
  mem_iff := by
    intro v
    rw [mem_iff, pushed?_eq_some_iff, pushed]
    simp [eq_comm]

theorem MeetsPushed.of_shorter (shorter : (stack t).length ≤ (stack s).length)
    (mem_iff : ∀ v, v ∈ met t ↔ v ∈ met s) : MeetsPushed met stack s t := by
  have none_pushed : ∀ v, pushed? (stack s) (stack t) ≠ some v := by
    intro v top
    rw [pushed?_eq_some_iff.1 top, List.length_cons] at shorter
    omega
  refine ⟨fun v top => absurd top (none_pushed v), fun v => ?_⟩
  rw [mem_iff]
  exact (or_iff_left (none_pushed v)).symm

/-- After some steps those ids are met that were met before, and those that were pushed. -/
theorem mem_met_iterate {n : Nat}
    (h : ∀ n, MeetsPushed met stack (step^[n] s) (step (step^[n] s))) {v : String} :
    v ∈ met (step^[n] s) ↔ v ∈ met s ∨ v ∈ pushes step stack n s := by
  induction n generalizing s with
  | zero => simp [pushes]
  | succ n ih =>
    have first : MeetsPushed met stack s (step s) := h 0
    have later := ih (s := step s) fun n => h (n + 1)
    rw [Function.iterate_succ_apply, later, first.mem_iff, pushes, List.mem_append,
      Option.mem_toList, or_assoc]

theorem not_met_of_mem_pushes {n : Nat}
    (h : ∀ n, MeetsPushed met stack (step^[n] s) (step (step^[n] s))) {v : String}
    (hv : v ∈ pushes step stack n s) : v ∉ met s := by
  induction n generalizing s with
  | zero => cases hv
  | succ n ih =>
    have first : MeetsPushed met stack s (step s) := h 0
    rw [pushes, List.mem_append, Option.mem_toList] at hv
    rcases hv with now | later
    · exact first.fresh v now
    · intro old
      exact ih (fun n => h (n + 1)) later ((first.mem_iff v).2 (.inl old))

/-- No id is pushed twice. -/
theorem nodup_pushes (h : ∀ n, MeetsPushed met stack (step^[n] s) (step (step^[n] s))) (n : Nat) :
    (pushes step stack n s).Nodup := by
  induction n generalizing s with
  | zero => exact List.nodup_nil
  | succ n ih =>
    have first : MeetsPushed met stack s (step s) := h 0
    have rest : ∀ n, MeetsPushed met stack (step^[n] (step s)) (step (step^[n] (step s))) :=
      fun n => h (n + 1)
    rw [pushes, List.nodup_append]
    refine ⟨by cases pushed? (stack s) (stack (step s)) <;> simp, ih rest, ?_⟩
    -- what is pushed now is met, and what is pushed later was not met before
    rintro v now w later rfl
    rw [Option.mem_toList] at now
    exact not_met_of_mem_pushes rest later ((first.mem_iff v).2 (.inr now))

end Pushes

/-! ## Edges of a selection -/

/-- Whether a selection takes in an edge. -/
def Selection.Admits (s : Selection) (e : Edge) : Prop :=
  ∀ types, s.edgeTypes = some types → e.type ∈ types

namespace Store

/-- An edge of a selection joins two nodes of the selection. -/
def Joins (g : Store) (s : Selection) (u v : String) : Prop :=
  u ∈ g.selected s ∧ v ∈ g.selected s ∧ ∃ e ∈ g.edges, e.source = u ∧ e.target = v ∧ s.Admits e

theorem nodup_selected (g : Store) (s : Selection) : (g.selected s).Nodup := by
  obtain ⟨nodeTypes, edgeTypes⟩ := s
  cases nodeTypes with
  | none => exact g.nodes.nodup_keys'
  | some types => exact (List.filter_sublist.map Prod.fst).nodup g.nodes.nodup_keys

theorem mem_ids_of_mem_selected {g : Store} {s : Selection} {u : String}
    (h : u ∈ g.selected s) : u ∈ g.ids := by
  obtain ⟨nodeTypes, edgeTypes⟩ := s
  cases nodeTypes with
  | none => exact h
  | some types => exact (List.filter_sublist.map Prod.fst).subset h

theorem mem_selected_of_mem_selectedSuccessors {g : Store} {s : Selection} {u v : String}
    (h : v ∈ g.selectedSuccessors s u) : v ∈ g.selected s := by
  simpa using (List.mem_filter.1 h).2

variable {g : Store}

theorem Indexes.mem_outgoing_admitted {m : Multigraph} (h : g.Indexes m) {s : Selection}
    {u : String} {e : Edge} :
    e ∈ g.outgoing u s.edgeTypes ↔ e ∈ g.edges ∧ e.source = u ∧ s.Admits e := by
  rw [edges, h.leaving.allEdges_perm.mem_iff]
  exact h.leaving.mem_edgesAt

/-- Edges join nodes only. -/
theorem Reachable.ends_of_mem_neighbors (h : g.Reachable) {types : Option (List String)}
    {u v : String} (hv : v ∈ g.neighbors u types) : u ∈ g.ids ∧ v ∈ g.ids := by
  obtain ⟨m, indexes⟩ := h.indexes
  obtain ⟨e, he, rfl⟩ := List.mem_map.1 hv
  obtain ⟨listed, rfl, -⟩ := (indexes.mem_outgoing_admitted (s := ⟨none, types⟩)).1 he
  exact indexes.ends e (indexes.leaving.allEdges_perm.mem_iff.1 listed)

theorem mem_neighbors_of_mem_successors {types members : Option (List String)} {u v : String}
    (h : v ∈ g.successors types members u) : v ∈ g.neighbors u types := by
  cases members with
  | none => exact h
  | some ms => exact (List.mem_filter.1 h).1

/-- From a node of a selection, the successors inside the selection are the nodes that its edges
join to it. -/
theorem Reachable.mem_selectedSuccessors_iff (h : g.Reachable) {s : Selection} {u v : String}
    (hu : u ∈ g.selected s) : v ∈ g.selectedSuccessors s u ↔ g.Joins s u v := by
  obtain ⟨m, indexes⟩ := h.indexes
  simp only [selectedSuccessors, successors, neighbors, List.mem_filter, List.mem_map,
    indexes.mem_outgoing_admitted, List.contains_iff_mem, Joins]
  constructor
  · rintro ⟨⟨e, ⟨he, hs, admitted⟩, ht⟩, hv⟩
    exact ⟨hu, hv, e, he, hs, ht, admitted⟩
  · rintro ⟨-, hv, e, he, hs, ht, admitted⟩
    exact ⟨⟨e, ⟨he, hs, admitted⟩, ht⟩, hv⟩

/-- Paths from a node of a selection go along its edges. -/
theorem Reachable.reaches_iff (h : g.Reachable) {s : Selection} {u v : String}
    (hu : u ∈ g.selected s) :
    Reaches (g.selectedSuccessors s) u v ↔ Relation.ReflTransGen (g.Joins s) u v := by
  constructor
  · intro path
    induction path using Relation.ReflTransGen.head_induction_on with
    | refl => exact .refl
    | head edge _ ih =>
      exact .head ((h.mem_selectedSuccessors_iff hu).1 edge)
        (ih (mem_selected_of_mem_selectedSuccessors edge))
  · intro path
    exact Relation.ReflTransGen.mono
      (fun _ _ edge => (h.mem_selectedSuccessors_iff edge.1).2 edge) _ _ path

/-- Cycles through a node of a selection go along its edges. -/
theorem Reachable.onCycle_iff (h : g.Reachable) {s : Selection} {u : String}
    (hu : u ∈ g.selected s) :
    OnCycle (g.selectedSuccessors s) u ↔ Relation.TransGen (g.Joins s) u u := by
  rw [OnCycle, Relation.TransGen.head'_iff, Relation.TransGen.head'_iff]
  constructor
  · rintro ⟨v, edge, path⟩
    exact ⟨v, (h.mem_selectedSuccessors_iff hu).1 edge,
      (h.reaches_iff (mem_selected_of_mem_selectedSuccessors edge)).1 path⟩
  · rintro ⟨v, edge, path⟩
    exact ⟨v, (h.mem_selectedSuccessors_iff hu).2 edge, (h.reaches_iff edge.2.1).2 path⟩

end Store

end CodeGraph

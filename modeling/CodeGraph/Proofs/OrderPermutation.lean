import CodeGraph.Proofs.OrderSearch

/-!
# Topological order and the order of its input

Nodes and demands may be listed in any order: the search for a topological order places the same
nodes in the same order. What is ready is looked at only for its smallest member, and releasing two
nodes comes to the same in either order.

Main definitions:

- `OrderSearch.Alike`: two searches have placed the same and have the same choices.

Main statements:

- `OrderSearch.Alike.foldl_release`, `Alike.step`, `Alike.run`: searches that are alike stay so;
- `orderUnder_perm`: the order for nodes and demands that are listed in another order.
-/
namespace CodeGraph

/-- The smallest of some texts is the one that is not after any of them. -/
theorem smallest?_eq_some_iff {ss : List String} {a : String} :
    smallest? ss = some a ↔ a ∈ ss ∧ ∀ b ∈ ss, a ≤ b := by
  have lower {ss : List String} {a : String} (h : smallest? ss = some a) : ∀ b ∈ ss, a ≤ b := by
    induction ss generalizing a with
    | nil => cases h
    | cons s ss ih =>
      intro b hb
      rw [smallest?] at h
      cases rest : smallest? ss with
      | none =>
        rw [rest] at h
        obtain rfl := Option.some.inj h
        rw [smallest?_eq_none_iff.1 rest, List.mem_singleton] at hb
        exact hb ▸ String.le_refl _
      | some t =>
        rw [rest] at h
        dsimp only at h
        split at h
        · next before =>
          obtain rfl := Option.some.inj h
          rcases List.mem_cons.1 hb with rfl | later
          · exact String.not_lt.1 (String.lt_asymm before)
          · exact ih rest b later
        · next after =>
          obtain rfl := Option.some.inj h
          rcases List.mem_cons.1 hb with rfl | later
          · exact String.le_refl _
          · exact String.le_trans (String.not_lt.1 after) (ih rest b later)
  constructor
  · intro h
    exact ⟨mem_of_smallest? h, lower h⟩
  · rintro ⟨ha, least⟩
    cases found : smallest? ss with
    | none =>
      rw [smallest?_eq_none_iff.1 found] at ha
      cases ha
    | some b =>
      exact congrArg some (String.le_antisymm (lower found a ha) (least b (mem_of_smallest? found)))

theorem smallest?_of_perm {ss ts : List String} (h : ss.Perm ts) : smallest? ss = smallest? ts := by
  refine Option.ext fun a => ?_
  rw [smallest?_eq_some_iff, smallest?_eq_some_iff, h.mem_iff]
  exact and_congr_right fun _ => forall_congr' fun b => by rw [h.mem_iff]

namespace OrderSearch

/-- Two searches have placed the same nodes, and have the same nodes to choose from. -/
structure Alike (s t : OrderSearch) : Prop where
  order_eq : s.order = t.order
  ready_perm : s.ready.Perm t.ready
  waitingOf_eq : ∀ v, s.waitingOf v = t.waitingOf v

namespace Alike

variable {s t r : OrderSearch}

theorem refl (s : OrderSearch) : s.Alike s := ⟨rfl, .refl _, fun _ => rfl⟩

theorem trans (h : s.Alike t) (h' : t.Alike r) : s.Alike r where
  order_eq := h.order_eq.trans h'.order_eq
  ready_perm := h.ready_perm.trans h'.ready_perm
  waitingOf_eq v := (h.waitingOf_eq v).trans (h'.waitingOf_eq v)

theorem release (h : s.Alike t) (v : String) : (s.release v).Alike (t.release v) where
  order_eq := h.order_eq
  ready_perm := by
    simp only [OrderSearch.release, h.waitingOf_eq]
    split
    · exact h.ready_perm.cons v
    · exact h.ready_perm
  waitingOf_eq u := by
    rw [waitingOf_release, waitingOf_release, h.waitingOf_eq, h.waitingOf_eq]

/-- Two nodes are released in either order. -/
theorem release_release (s : OrderSearch) (u v : String) :
    ((s.release u).release v).Alike ((s.release v).release u) := by
  by_cases same : u = v
  · exact same ▸ refl _
  · refine ⟨rfl, ?_, fun w => ?_⟩
    · have ready_eq (s : OrderSearch) (v : String) : (s.release v).ready =
          if s.waitingOf v - 1 = 0 then v :: s.ready else s.ready := rfl
      simp only [ready_eq, waitingOf_release, if_neg same, if_neg (Ne.symm same)]
      split <;> split
      · exact List.Perm.swap ..
      · exact .refl _
      · exact .refl _
      · exact .refl _
    · simp only [waitingOf_release]
      by_cases hu : w = u
      · rw [if_neg fun hv => same (hu.symm.trans hv), if_pos hu, if_pos hu, if_neg same]
      · by_cases hv : w = v
        · rw [if_pos hv, if_neg hu, if_neg (Ne.symm same), if_pos hv]
        · rw [if_neg hv, if_neg hu, if_neg hu, if_neg hv]

theorem foldl_release_left (h : s.Alike t) (vs : List String) :
    (vs.foldl OrderSearch.release s).Alike (vs.foldl OrderSearch.release t) := by
  induction vs generalizing s t with
  | nil => exact h
  | cons v vs ih => exact ih (h.release v)

/-- Many nodes are released in any order. -/
theorem foldl_release {us vs : List String} (perm : us.Perm vs) (h : s.Alike t) :
    (us.foldl OrderSearch.release s).Alike (vs.foldl OrderSearch.release t) := by
  induction perm generalizing s t with
  | nil => exact h
  | cons v _ ih => exact ih (h.release v)
  | swap u v vs =>
    have swapped : ((s.release v).release u).Alike ((t.release u).release v) :=
      (release_release s v u).trans ((h.release u).release v)
    exact swapped.foldl_release_left vs
  | trans _ _ ih ih' => exact (ih h).trans (ih' (refl t))

variable {after after' : String → List String}

/-- A step places the same node in both searches. -/
theorem step (h : s.Alike t) (same : ∀ v, (after v).Perm (after' v)) :
    (OrderSearch.step after s).Alike (OrderSearch.step after' t) := by
  rw [OrderSearch.step, OrderSearch.step, smallest?_of_perm h.ready_perm]
  cases smallest? t.ready with
  | none => exact h
  | some id =>
    refine foldl_release (same id) ⟨?_, h.ready_perm.erase id, h.waitingOf_eq⟩
    exact congrArg (· ++ [id]) h.order_eq

theorem run (h : s.Alike t) (same : ∀ v, (after v).Perm (after' v)) (n : Nat) :
    (s.run after n).Alike (t.run after' n) := by
  induction n generalizing s t with
  | zero => exact h
  | succ n ih => exact ih (h.step same)

end Alike

theorem alike_start {ids ids' : List String} {demands demands' : List (String × String)}
    (nodes : ids.Perm ids') (same : demands.Perm demands') :
    (start ids demands).Alike (start ids' demands') := by
  have counts (v : String) : (demands.map Prod.snd).count v = (demands'.map Prod.snd).count v :=
    (same.map Prod.snd).count_eq v
  refine ⟨rfl, ?_, fun v => ?_⟩
  · simp only [start, Table.get?_tally, counts]
    exact nodes.filter _
  · simp only [waitingOf, start, Table.get?_tally, counts]

end OrderSearch

theorem followers_perm {demands demands' : List (String × String)} (same : demands.Perm demands')
    (v : String) :
    (followers (Table.group demands) v).Perm (followers (Table.group demands') v) := by
  rw [followers, followers, Table.get?_group, Table.get?_group]
  exact (same.filter _).map Prod.snd

/-- Nodes and demands that are listed in another order are placed in the same order. -/
theorem orderUnder_perm {ids ids' : List String} {demands demands' : List (String × String)}
    (nodes : ids.Perm ids') (same : demands.Perm demands') :
    orderUnder ids demands = orderUnder ids' demands' := by
  rw [orderUnder, orderUnder, nodes.length_eq]
  exact ((OrderSearch.alike_start nodes same).run (followers_perm same) ids'.length).order_eq

end CodeGraph

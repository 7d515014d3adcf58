import CodeGraph.Graph.Order
import CodeGraph.Proofs.Reach

/-!
# Topological order and cycles

The search for an order counts, for every node, the demands of nodes that are not placed. What it
places comes after everything demanded before it, and it stops short only when each node that is
left waits for another one that is left, so that the demands run in a circle.

Main definitions:

- `OrderSearch.held`: the demands that keep a node back;
- `OrderSearch.Sound`: everything a step keeps.

Main statements:

- `Sound.step`, `Sound.run`: what every step keeps holds after a whole run;
- `length_orderUnder_iff`: all nodes can be placed when the demands form no cycle;
- `Store.topologicalOrder_eq_none_iff`: there is no order when some node is on a cycle.
-/
namespace CodeGraph

theorem smallest?_eq_none_iff {ss : List String} : smallest? ss = none ↔ ss = [] := by
  cases ss with
  | nil => simp [smallest?]
  | cons s ss =>
    rw [smallest?]
    split
    · simp
    · split <;> simp

theorem mem_of_smallest? {ss : List String} {a : String} (h : smallest? ss = some a) : a ∈ ss := by
  induction ss generalizing a with
  | nil => cases h
  | cons s ss ih =>
    rw [smallest?] at h
    split at h
    · exact List.mem_cons.2 (.inl (Option.some.inj h).symm)
    · next t found =>
      split at h
      · exact List.mem_cons_of_mem s (ih (found.trans h))
      · exact List.mem_cons.2 (.inl (Option.some.inj h).symm)

/-- Whether one id is demanded before another. -/
def Demanded (demands : List (String × String)) (a b : String) : Prop := (a, b) ∈ demands

theorem mem_followers_iff {demands : List (String × String)} {a b : String} :
    b ∈ followers (Table.group demands) a ↔ Demanded demands a b := by
  rw [followers, Table.get?_group, Demanded]
  simp

namespace OrderSearch

/-- The number of demands that keep a node back: those of nodes that are not placed. -/
def held (demands : List (String × String)) (order : List String) (v : String) : Nat :=
  demands.countP fun d => d.2 = v ∧ d.1 ∉ order

theorem held_eq_zero_iff {demands : List (String × String)} {order : List String} {v : String} :
    held demands order v = 0 ↔ ∀ a, Demanded demands a v → a ∈ order := by
  rw [held, List.countP_eq_zero]
  constructor
  · intro none a demanded
    simpa using none (a, v) demanded
  · rintro placed ⟨a, b⟩ demanded
    rw [decide_eq_true_eq]
    rintro ⟨rfl, missing⟩
    exact missing (placed a demanded)

/-- Placing a node takes back the demands that it has on others. -/
theorem held_append {demands : List (String × String)} {order : List String} {id : String}
    (fresh : id ∉ order) (v : String) :
    held demands order v =
      (followers (Table.group demands) id).count v + held demands (order ++ [id]) v := by
  rw [followers, Table.get?_group]
  induction demands with
  | nil => rfl
  | cons d demands ih =>
    simp only [held] at ih ⊢
    rw [List.countP_cons, List.countP_cons, List.filter_cons, ih]
    by_cases same : d.1 = id
    · by_cases here : d.2 = v
      · simp [same, here, fresh]
        omega
      · simp [same, here]
    · by_cases here : d.2 = v
      · simp [same, here]
        omega
      · simp [same, here]

variable {ids late : List String} {demands : List (String × String)} {s : OrderSearch}

/-- What every step keeps. In the middle of a step, some nodes are still to be released. -/
structure Sound (ids : List String) (demands : List (String × String)) (late : List String)
    (s : OrderSearch) : Prop where
  order_within : ∀ v ∈ s.order, v ∈ ids
  order_nodup : s.order.Nodup
  ready_nodup : s.ready.Nodup
  mem_ready : ∀ v, v ∈ s.ready ↔ v ∈ ids ∧ v ∉ s.order ∧ s.waitingOf v = 0
  waiting_eq : ∀ v, s.waitingOf v = late.count v + held demands s.order v
  late_open : ∀ v ∈ late, v ∈ ids ∧ v ∉ s.order
  /-- What is demanded before a node that is placed is placed before it. -/
  before : ∀ a b, Demanded demands a b → b ∈ s.order → s.order.idxOf a < s.order.idxOf b

theorem waitingOf_release (s : OrderSearch) (t v : String) :
    (s.release t).waitingOf v = if v = t then s.waitingOf t - 1 else s.waitingOf v := by
  rw [waitingOf, release, Table.get?_insert]
  split <;> rfl

/-- One node that is to be released is released. -/
theorem Sound.release {t : String} (h : Sound ids demands (t :: late) s) :
    Sound ids demands late (s.release t) := by
  have kept : 0 < s.waitingOf t := by
    rw [h.waiting_eq, List.count_cons_self]
    omega
  obtain ⟨listed, unplaced⟩ := h.late_open t (by simp)
  -- the demand that is taken back still counts, so the node is not ready before
  have not_ready : t ∉ s.ready := fun hr => by
    have free := ((h.mem_ready t).1 hr).2.2
    omega
  have ready_eq : (s.release t).ready = if s.waitingOf t - 1 = 0 then t :: s.ready else s.ready :=
    rfl
  refine ⟨h.order_within, h.order_nodup, ?_, ?_, ?_, fun v hv => h.late_open v (by simp [hv]),
    h.before⟩
  · rw [ready_eq]
    split
    · exact List.nodup_cons.2 ⟨not_ready, h.ready_nodup⟩
    · exact h.ready_nodup
  · intro v
    rw [ready_eq, waitingOf_release]
    by_cases same : v = t
    · subst same
      rw [if_pos rfl]
      split
      · next free => exact ⟨fun _ => ⟨listed, unplaced, free⟩, fun _ => List.mem_cons_self⟩
      · next more => exact ⟨fun hr => absurd hr not_ready, fun free => absurd free.2.2 more⟩
    · have old := h.mem_ready v
      rw [if_neg same]
      split
      · rw [List.mem_cons, or_iff_right same]
        exact old
      · exact old
  · intro v
    have old := h.waiting_eq v
    have order_eq : (s.release t).order = s.order := rfl
    rw [waitingOf_release, order_eq]
    by_cases same : v = t
    · subst same
      rw [List.count_cons_self] at old
      rw [if_pos rfl]
      omega
    · rw [List.count_cons_of_ne (Ne.symm same)] at old
      rw [if_neg same]
      exact old

theorem Sound.releaseAll (h : Sound ids demands late s) :
    Sound ids demands [] (late.foldl OrderSearch.release s) := by
  induction late generalizing s with
  | nil => exact h
  | cons t late ih => exact ih h.release

/-- What is demanded before a node that is ready is placed. -/
theorem Sound.answered (h : Sound ids demands [] s) {id : String} (ready : id ∈ s.ready)
    {a : String} (demanded : Demanded demands a id) : a ∈ s.order := by
  have none_held := h.waiting_eq id
  rw [((h.mem_ready id).1 ready).2.2, List.count_nil, Nat.zero_add] at none_held
  exact held_eq_zero_iff.1 none_held.symm a demanded

theorem Sound.idxOf_last (h : Sound ids demands late s) {id : String} (ready : id ∈ s.ready) :
    (s.order ++ [id]).idxOf id = s.order.length := by
  have fresh := ((h.mem_ready id).1 ready).2.1
  rw [List.idxOf_append_of_notMem fresh, List.idxOf_cons_self, Nat.add_zero]

/-- A node that is ready may be placed after all others. -/
theorem Sound.before_place (h : Sound ids demands [] s) {id : String} (ready : id ∈ s.ready)
    {a b : String} (demanded : Demanded demands a b) (hb : b ∈ s.order ++ [id]) :
    (s.order ++ [id]).idxOf a < (s.order ++ [id]).idxOf b := by
  rcases List.mem_append.1 hb with placed | now
  · have lt := h.before a b demanded placed
    have ha : a ∈ s.order :=
      List.idxOf_lt_length_iff.1 (lt.trans (List.idxOf_lt_length_iff.2 placed))
    rw [List.idxOf_append_of_mem ha, List.idxOf_append_of_mem placed]
    exact lt
  · obtain rfl := List.mem_singleton.1 now
    have ha := h.answered ready demanded
    rw [h.idxOf_last ready, List.idxOf_append_of_mem ha]
    exact List.idxOf_lt_length_iff.2 ha

/-- A node that is ready is placed; then the nodes that come after it are to be released. -/
theorem Sound.place (h : Sound ids demands [] s) (within : ∀ a b, Demanded demands a b → b ∈ ids)
    {id : String} (ready : id ∈ s.ready) :
    Sound ids demands (followers (Table.group demands) id)
      { s with ready := s.ready.erase id, order := s.order ++ [id] } := by
  obtain ⟨listed, fresh, -⟩ := (h.mem_ready id).1 ready
  refine ⟨?_, ?_, h.ready_nodup.erase id, ?_, ?_, ?_, fun a b => h.before_place ready⟩
  · intro v hv
    rcases List.mem_append.1 hv with placed | now
    · exact h.order_within v placed
    · rwa [List.mem_singleton.1 now]
  · rw [List.nodup_append]
    refine ⟨h.order_nodup, List.nodup_singleton id, ?_⟩
    rintro v hv w hw rfl
    exact fresh (List.mem_singleton.1 hw ▸ hv)
  · intro v
    have old := h.mem_ready v
    have waiting_same : waitingOf { s with
        ready := s.ready.erase id, order := s.order ++ [id] } v = s.waitingOf v := rfl
    rw [waiting_same, h.ready_nodup.mem_erase_iff, old, List.mem_append, List.mem_singleton]
    tauto
  · intro v
    have old := h.waiting_eq v
    rw [List.count_nil, Nat.zero_add, held_append fresh] at old
    exact old
  · -- what comes after the node cannot be placed, since the node stands last
    intro v hv
    have demanded := mem_followers_iff.1 hv
    refine ⟨within id v demanded, fun (placed : v ∈ s.order ++ [id]) => ?_⟩
    have lt := h.before_place ready demanded placed
    have le := List.idxOf_lt_length_iff.2 placed
    rw [h.idxOf_last ready] at lt
    rw [List.length_append, List.length_singleton] at le
    omega

/-! ## A step -/

theorem order_foldl_release (ts : List String) (s : OrderSearch) :
    (ts.foldl OrderSearch.release s).order = s.order := by
  induction ts generalizing s with
  | nil => rfl
  | cons t ts ih => exact ih (s.release t)

theorem step_of_ready_nil {after : String → List String} (ended : s.ready = []) :
    step after s = s := by
  rw [step, ended]
  rfl

theorem Sound.step (h : Sound ids demands [] s) (within : ∀ a b, Demanded demands a b → b ∈ ids) :
    Sound ids demands [] (OrderSearch.step (followers (Table.group demands)) s) := by
  cases least : smallest? s.ready with
  | none =>
    rw [step_of_ready_nil (smallest?_eq_none_iff.1 least)]
    exact h
  | some id =>
    rw [OrderSearch.step, least]
    exact (h.place within (mem_of_smallest? least)).releaseAll

theorem Sound.run (h : Sound ids demands [] s) (within : ∀ a b, Demanded demands a b → b ∈ ids)
    (n : Nat) : Sound ids demands [] (s.run (followers (Table.group demands)) n) := by
  induction n generalizing s with
  | zero => exact h
  | succ n ih => exact ih (h.step within)

/-- A step places a node, unless none is ready. -/
theorem length_step (after : String → List String) (s : OrderSearch) :
    s.ready = [] ∨ (step after s).order.length = s.order.length + 1 := by
  cases least : smallest? s.ready with
  | none => exact .inl (smallest?_eq_none_iff.1 least)
  | some id =>
    right
    rw [step, least]
    dsimp only
    rw [order_foldl_release, List.length_append, List.length_singleton]

theorem length_run (after : String → List String) (s : OrderSearch) (n : Nat) :
    (s.run after n).ready = [] ∨ (s.run after n).order.length = s.order.length + n := by
  induction n generalizing s with
  | zero => exact .inr rfl
  | succ n ih =>
    rcases length_step after s with ended | longer
    · left
      have stays (k : Nat) : s.run after k = s := by
        induction k with
        | zero => rfl
        | succ k ih => rw [OrderSearch.run, step_of_ready_nil ended, ih]
      rw [stays]
      exact ended
    · rcases ih (step after s) with ended | all
      · exact .inl ended
      · right
        rw [OrderSearch.run, all, longer]
        omega

/-- Before the first step nothing is placed, and every demand keeps its node back. -/
theorem sound_start (distinct : ids.Nodup) (demands : List (String × String)) :
    Sound ids demands [] (start ids demands) := by
  have waiting_eq : ∀ v, (start ids demands).waitingOf v = held demands [] v := by
    intro v
    rw [waitingOf, start, Table.get?_tally, held, List.count_eq_countP, List.countP_map]
    exact List.countP_congr fun d _ => by simp
  refine {
    order_within := by simp [start]
    order_nodup := List.nodup_nil
    ready_nodup := distinct.filter _
    mem_ready := ?_
    waiting_eq := ?_
    late_open := by simp
    before := by simp [start] }
  · intro v
    simp [start, waitingOf]
  · intro v
    rw [waiting_eq, List.count_nil, Nat.zero_add]
    rfl

/-! ## The end of a search -/

/-- When no node is ready, each one that is left waits for another one that is left. -/
theorem Sound.exists_waiting (h : Sound ids demands [] s)
    (within : ∀ a b, Demanded demands a b → a ∈ ids) (ended : s.ready = []) {v : String}
    (hv : v ∈ ids.filter (· ∉ s.order)) :
    ∃ u ∈ ids.filter (· ∉ s.order), Demanded demands u v := by
  obtain ⟨listed, unplaced⟩ := List.mem_filter.1 hv
  have kept : held demands s.order v ≠ 0 := by
    intro free
    have ready : v ∈ s.ready := by
      rw [h.mem_ready, h.waiting_eq, List.count_nil, Nat.zero_add]
      exact ⟨listed, of_decide_eq_true unplaced, free⟩
    rw [ended] at ready
    cases ready
  rw [Ne, held_eq_zero_iff] at kept
  push Not at kept
  obtain ⟨u, demanded, missing⟩ := kept
  exact ⟨u, List.mem_filter.2 ⟨within u v demanded, decide_eq_true missing⟩, demanded⟩

/-- When all nodes are placed, demands lead up the order, and never back. -/
theorem Sound.acyclic (h : Sound ids demands [] s)
    (within : ∀ a b, Demanded demands a b → b ∈ ids) (placed : ∀ v ∈ ids, v ∈ s.order)
    (u : String) : ¬ Relation.TransGen (Demanded demands) u u := by
  have rising : ∀ v, Relation.TransGen (Demanded demands) u v →
      s.order.idxOf u < s.order.idxOf v := by
    intro v path
    induction path with
    | single edge => exact h.before _ _ edge (placed _ (within _ _ edge))
    | tail _ edge ih => exact ih.trans (h.before _ _ edge (placed _ (within _ _ edge)))
  exact fun cycle => lt_irrefl _ (rising u cycle)

/-- When no node is ready and the demands form no cycle, all nodes are placed. -/
theorem Sound.all_placed (h : Sound ids demands [] s)
    (within : ∀ a b, Demanded demands a b → a ∈ ids) (ended : s.ready = [])
    (acyclic : ¬ ∃ u, Relation.TransGen (Demanded demands) u u) {v : String} (hv : v ∈ ids) :
    v ∈ s.order := by
  by_contra missing
  have left_over : v ∈ ids.filter (· ∉ s.order) :=
    List.mem_filter.2 ⟨hv, decide_eq_true missing⟩
  obtain ⟨u, -, cycle⟩ := exists_cycle left_over fun v hv => h.exists_waiting within ended hv
  exact acyclic ⟨u, cycle⟩

end OrderSearch

/-- All nodes can be placed exactly when the demands form no cycle. -/
theorem length_orderUnder_iff {ids : List String} {demands : List (String × String)}
    (distinct : ids.Nodup) (within : ∀ a b, Demanded demands a b → a ∈ ids ∧ b ∈ ids) :
    (orderUnder ids demands).length = ids.length ↔
      ¬ ∃ u, Relation.TransGen (Demanded demands) u u := by
  have sound := (OrderSearch.sound_start distinct demands).run (fun a b d => (within a b d).2)
    ids.length
  have progress := OrderSearch.length_run (followers (Table.group demands))
    (OrderSearch.start ids demands) ids.length
  rw [orderUnder]
  generalize (OrderSearch.start ids demands).run (followers (Table.group demands)) ids.length = s
    at sound progress
  have part : s.order.Subperm ids := sound.order_nodup.subperm sound.order_within
  constructor
  · rintro complete ⟨u, cycle⟩
    have placed : ∀ v ∈ ids, v ∈ s.order := fun v hv =>
      (part.perm_of_length_le complete.ge).mem_iff.2 hv
    exact sound.acyclic (fun a b d => (within a b d).2) placed u cycle
  · intro acyclic
    rcases progress with ended | full
    · have placed : ids ⊆ s.order := fun v hv =>
        sound.all_placed (fun a b d => (within a b d).1) ended acyclic hv
      exact le_antisymm part.length_le (distinct.subperm placed).length_le
    · rw [full]
      exact Nat.zero_add _

namespace Store

variable {g : Store} {s : Selection}

/-- The start of an edge is demanded before its end. -/
theorem demanded_iff {a b : String} :
    Demanded (g.demands s false) a b ↔ a ∈ g.selected s ∧ b ∈ g.selectedSuccessors s a := by
  simp [Demanded, demands]

/-- In the reverse order the end of an edge is demanded before its start. -/
theorem demanded_reverse_iff {a b : String} :
    Demanded (g.demands s true) a b ↔ Demanded (g.demands s false) b a := by
  simp [Demanded, demands]

theorem demanded_selected {reverse : Bool} {a b : String}
    (h : Demanded (g.demands s reverse) a b) : a ∈ g.selected s ∧ b ∈ g.selected s := by
  cases reverse with
  | false =>
    obtain ⟨ha, edge⟩ := demanded_iff.1 h
    exact ⟨ha, mem_selected_of_mem_selectedSuccessors edge⟩
  | true =>
    obtain ⟨hb, edge⟩ := demanded_iff.1 (demanded_reverse_iff.1 h)
    exact ⟨mem_selected_of_mem_selectedSuccessors edge, hb⟩

/-- Demands form a cycle where edges do. -/
theorem transGen_demanded_iff {reverse : Bool} {u : String} :
    Relation.TransGen (Demanded (g.demands s reverse)) u u ↔
      u ∈ g.selected s ∧ OnCycle (g.selectedSuccessors s) u := by
  have forward : Relation.TransGen (Demanded (g.demands s false)) u u ↔
      u ∈ g.selected s ∧ OnCycle (g.selectedSuccessors s) u := by
    constructor
    · intro cycle
      obtain ⟨v, edge, -⟩ := Relation.TransGen.head'_iff.1 cycle
      have follows : ∀ a b, Demanded (g.demands s false) a b →
          Follows (g.selectedSuccessors s) a b := fun _ _ demanded => (demanded_iff.1 demanded).2
      exact ⟨(demanded_iff.1 edge).1, Relation.TransGen.mono follows u u cycle⟩
    · rintro ⟨hu, cycle⟩
      have along : ∀ v, Relation.TransGen (Follows (g.selectedSuccessors s)) u v →
          Relation.TransGen (Demanded (g.demands s false)) u v := by
        intro v path
        induction path with
        | single edge => exact .single (demanded_iff.2 ⟨hu, edge⟩)
        | tail _ edge ih =>
          obtain ⟨_, -, last⟩ := Relation.TransGen.tail'_iff.1 ih
          exact ih.tail (demanded_iff.2 ⟨(demanded_selected last).2, edge⟩)
      exact along u cycle
  cases reverse with
  | false => exact forward
  | true =>
    have swapped : Demanded (g.demands s true) =
        Function.swap (Demanded (g.demands s false)) := by
      ext a b
      exact demanded_reverse_iff
    rw [swapped, Relation.transGen_swap]
    exact forward

/-- A selection has no topological order, in either direction, when some node is on a cycle. -/
theorem topologicalOrder_eq_none_iff {reverse : Bool} :
    g.topologicalOrder s reverse = none ↔
      ∃ u ∈ g.selected s, OnCycle (g.selectedSuccessors s) u := by
  have within : ∀ a b, Demanded (g.demands s reverse) a b → a ∈ g.selected s ∧ b ∈ g.selected s :=
    fun a b demanded => demanded_selected demanded
  have complete := length_orderUnder_iff (nodup_selected g s) within
  have cycles : (∃ u, Relation.TransGen (Demanded (g.demands s reverse)) u u) ↔
      ∃ u ∈ g.selected s, OnCycle (g.selectedSuccessors s) u :=
    exists_congr fun u => transGen_demanded_iff
  rw [← cycles, topologicalOrder]
  split
  · next full => simpa using complete.1 full
  · next short => simpa using fun acyclic => short (complete.2 acyclic)

end Store

end CodeGraph

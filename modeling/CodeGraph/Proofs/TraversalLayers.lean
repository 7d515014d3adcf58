import CodeGraph.Graph.Traversal
import CodeGraph.Proofs.Reach
import Mathlib.Data.List.Perm.Subperm

/-!
# Traversals layer by layer

The queue of a traversal holds the nodes of one distance before those of the next. Expanding all
nodes of one distance notes what follows them and is new, each node once, as if they were expanded
in one go. So a traversal is told layer by layer, and without a bound it ends when a layer is empty.

Main definitions:

- `Layer`: the nodes met so far, and among them those at the last distance;
- `layer`: the layers around a node.

Main statements:

- `Traversal.run_front`, `Traversal.run_layer`: a traversal goes from layer to layer;
- `Traversal.run_unbounded`, `Traversal.seen_run_bounded`: what it has met after as many steps as
  there are nodes;
- `Store.Indexes.transitive_exact`: an unbounded traversal finds what a node reaches.
-/
namespace CodeGraph

/-! ## Members that are new -/

/-- Each member that is new is noted where it first comes up. -/
theorem unseen_eq (seen ids : List String) :
    unseen seen ids = (ids.filter fun id => id ∉ seen).eraseDups := by
  induction ids generalizing seen with
  | nil => rfl
  | cons id ids ih =>
    by_cases old : id ∈ seen
    · rw [unseen, if_pos old, List.filter_cons_of_neg (by simpa using old), ih]
    · have later : ids.filter (fun v => v ∉ id :: seen) =
          (ids.filter fun v => v ∉ seen).filter fun v => !v == id := by
        rw [List.filter_filter]
        congr 1
        funext v
        rw [Bool.eq_iff_iff]
        simp
      rw [unseen, if_neg old, List.filter_cons_of_pos (by simpa using old), List.eraseDups_cons, ih,
        later]

theorem mem_unseen_iff {seen ids : List String} {v : String} :
    v ∈ unseen seen ids ↔ v ∈ ids ∧ v ∉ seen := by
  rw [unseen_eq, List.mem_eraseDups, List.mem_filter, decide_eq_true_eq]

theorem nodup_unseen (seen ids : List String) : (unseen seen ids).Nodup := by
  rw [unseen_eq]
  exact nodup_eraseDups _

theorem unseen_congr {seen seen' : List String} (same : ∀ v, v ∈ seen ↔ v ∈ seen')
    (ids : List String) : unseen seen ids = unseen seen' ids := by
  simp only [unseen_eq, same]

theorem unseen_append (seen ids more : List String) : unseen seen (ids ++ more) =
    unseen seen ids ++ unseen (seen ++ unseen seen ids) more := by
  induction ids generalizing seen with
  | nil => rw [List.nil_append, unseen, List.nil_append, List.append_nil]
  | cons id ids ih =>
    by_cases old : id ∈ seen
    · rw [List.cons_append, unseen, if_pos old, ih, unseen, if_pos old]
    · have same : unseen (id :: seen ++ unseen (id :: seen) ids) more =
          unseen (seen ++ id :: unseen (id :: seen) ids) more :=
        unseen_congr (fun v => by simp [or_left_comm]) more
      rw [List.cons_append, unseen, if_neg old, ih, unseen, if_neg old, same, List.cons_append]

/-! ## Layers -/

/-- How far a traversal has come when it turns to the nodes of a distance. -/
structure Layer where
  /-- The nodes met so far, nearest first. -/
  seen : List String
  /-- Those among them that were met last, all at one distance. -/
  front : List String

/-- The layer that comes after another one. -/
def Layer.after (next : String → List String) (l : Layer) : Layer :=
  let found := unseen l.seen (l.front.flatMap next)
  ⟨l.seen ++ found, found⟩

/-- The layer at a distance from a node. -/
def layer (next : String → List String) (id : String) : Nat → Layer
  | 0 => ⟨[id], [id]⟩
  | n + 1 => (layer next id n).after next

section Layers

variable {next : String → List String} {id v w : String} {n : Nat}

theorem mem_front_succ_iff : v ∈ (layer next id (n + 1)).front ↔
    (∃ u ∈ (layer next id n).front, v ∈ next u) ∧ v ∉ (layer next id n).seen := by
  show v ∈ unseen _ _ ↔ _
  rw [mem_unseen_iff, List.mem_flatMap]

theorem seen_succ (next : String → List String) (id : String) (n : Nat) :
    (layer next id (n + 1)).seen = (layer next id n).seen ++ (layer next id (n + 1)).front := rfl

theorem nodup_seen (next : String → List String) (id : String) (n : Nat) :
    (layer next id n).seen.Nodup := by
  induction n with
  | zero => exact List.nodup_singleton id
  | succ n ih =>
    rw [seen_succ]
    refine ih.append (nodup_unseen _ _) fun v old new => ?_
    exact (mem_front_succ_iff.1 new).2 old

/-- The start is seen first, and not once more. -/
theorem seen_eq_cons (next : String → List String) (id : String) (n : Nat) :
    (layer next id n).seen = id :: (layer next id n).seen.tail := by
  induction n with
  | zero => rfl
  | succ n ih =>
    rw [seen_succ, ih]
    rfl

/-- One step away are the neighbours of the start, but not the start itself. -/
theorem tail_seen_one (next : String → List String) (id : String) :
    (layer next id 1).seen.tail = unseen [id] (next id) := by
  show unseen [id] ([id].flatMap next) = _
  rw [List.flatMap_singleton]

theorem mem_tail_seen_iff :
    v ∈ (layer next id n).seen.tail ↔ v ≠ id ∧ v ∈ (layer next id n).seen := by
  have distinct := nodup_seen next id n
  rw [seen_eq_cons, List.nodup_cons] at distinct
  rw [seen_eq_cons, List.tail_cons, List.mem_cons]
  constructor
  · intro later
    exact ⟨fun same => distinct.1 (same ▸ later), .inr later⟩
  · rintro ⟨other, rfl | later⟩
    · exact absurd rfl other
    · exact later

theorem reaches_of_mem_layer : (v ∈ (layer next id n).seen → Reaches next id v) ∧
    (v ∈ (layer next id n).front → Reaches next id v) := by
  induction n generalizing v with
  | zero =>
    have start : v ∈ [id] → Reaches next id v := fun hv => List.mem_singleton.1 hv ▸ .refl
    exact ⟨start, start⟩
  | succ n ih =>
    have front : v ∈ (layer next id (n + 1)).front → Reaches next id v := by
      intro new
      obtain ⟨⟨u, hu, edge⟩, -⟩ := mem_front_succ_iff.1 new
      exact (ih.2 hu).tail edge
    refine ⟨fun hv => ?_, front⟩
    rw [seen_succ, List.mem_append] at hv
    exact hv.elim ih.1 front

/-- What follows a node that is seen is seen too, unless the node is in the last layer. -/
theorem mem_front_or_closed (hv : v ∈ (layer next id n).seen) :
    v ∈ (layer next id n).front ∨ ∀ w ∈ next v, w ∈ (layer next id n).seen := by
  induction n generalizing v with
  | zero => exact .inl hv
  | succ n ih =>
    rw [seen_succ, List.mem_append] at hv
    rcases hv with old | new
    · right
      intro w hw
      rw [seen_succ, List.mem_append]
      by_cases known : w ∈ (layer next id n).seen
      · exact .inl known
      · rcases ih old with front | closed
        · exact .inr (mem_front_succ_iff.2 ⟨⟨v, front, hw⟩, known⟩)
        · exact absurd (closed w hw) known
    · exact .inl new

/-- When a layer is empty, everything that can be reached is seen. -/
theorem mem_seen_iff_reaches (ended : (layer next id n).front = []) :
    v ∈ (layer next id n).seen ↔ Reaches next id v := by
  constructor
  · exact reaches_of_mem_layer.1
  · intro path
    have start : id ∈ (layer next id n).seen := by
      rw [seen_eq_cons]
      exact List.mem_cons_self
    refine path.stays (fun u hu => ?_) start
    rcases mem_front_or_closed hu with front | closed
    · rw [ended] at front
      cases front
    · exact closed

/-- Nothing comes after an empty layer. -/
theorem front_succ_eq_nil (ended : (layer next id n).front = []) :
    (layer next id (n + 1)).front = [] := by
  apply List.eq_nil_iff_forall_not_mem.2
  intro v new
  obtain ⟨⟨u, hu, -⟩, -⟩ := mem_front_succ_iff.1 new
  rw [ended] at hu
  cases hu

/-- Each layer that is not empty adds a node. -/
theorem lt_length_seen (h : (layer next id n).front ≠ []) : n < (layer next id n).seen.length := by
  induction n with
  | zero => exact Nat.zero_lt_one
  | succ n ih =>
    have grown := ih fun ended => h (front_succ_eq_nil ended)
    have added := List.length_pos_iff.2 h
    rw [seen_succ, List.length_append]
    omega

theorem front_eq_nil_of_le {m : Nat} (ended : (layer next id m).front = []) (le : m ≤ n) :
    (layer next id n).front = [] := by
  induction le with
  | refl => exact ended
  | step _ ih => exact front_succ_eq_nil ih

/-- After an empty layer nothing new is seen. -/
theorem seen_of_front_eq_nil {m : Nat} (ended : (layer next id m).front = []) (le : m ≤ n) :
    (layer next id n).seen = (layer next id m).seen := by
  induction le with
  | refl => rfl
  | @step k before ih =>
    have none_new := front_eq_nil_of_le ended (Nat.le_succ_of_le before)
    rw [seen_succ, none_new, List.append_nil, ih]

/-- More layers only append to what is seen. -/
theorem isPrefix_seen {m : Nat} (le : m ≤ n) :
    (layer next id m).seen <+: (layer next id n).seen := by
  induction le with
  | refl => exact List.prefix_refl _
  | step _ ih =>
    rw [seen_succ]
    exact ih.trans (List.prefix_append _ _)

/-- Whatever number of layers is looked at, what is seen is the beginning of what is seen in the
end. -/
theorem isPrefix_seen_of_front_eq_nil {m : Nat} (ended : (layer next id m).front = []) :
    (layer next id n).seen <+: (layer next id m).seen := by
  rcases Nat.le_total n m with le | le
  · exact isPrefix_seen le
  · rw [seen_of_front_eq_nil ended le]

theorem seen_eq_of_front_eq_nil {m : Nat} (hm : (layer next id m).front = [])
    (hn : (layer next id n).front = []) : (layer next id m).seen = (layer next id n).seen := by
  rcases Nat.le_total m n with le | le
  · exact (seen_of_front_eq_nil hm le).symm
  · exact seen_of_front_eq_nil hn le

variable {all : List String}

theorem length_seen_le (hid : id ∈ all) (closed : ∀ u ∈ all, ∀ v ∈ next u, v ∈ all) (n : Nat) :
    (layer next id n).seen.length ≤ all.length := by
  refine ((nodup_seen next id n).subperm fun v hv => ?_).length_le
  exact (reaches_of_mem_layer.1 hv).stays closed hid

/-- Among so many nodes there are no more layers than nodes. -/
theorem front_eq_nil (hid : id ∈ all) (closed : ∀ u ∈ all, ∀ v ∈ next u, v ∈ all) :
    (layer next id all.length).front = [] := by
  by_contra more
  have grown := lt_length_seen more
  have bounded := length_seen_le hid closed all.length
  omega

end Layers

/-! ## Steps -/

namespace Traversal

variable {next : String → List String} {maxDepth : Option Int} {id : String} {n : Nat}

theorem run_add (next : String → List String) (maxDepth : Option Int) (m n : Nat) (t : Traversal) :
    run next maxDepth (m + n) t = run next maxDepth n (run next maxDepth m t) := by
  induction m generalizing t with
  | zero => rw [Nat.zero_add, run]
  | succ m ih => rw [Nat.succ_add, run, run, ih]

theorem run_of_ended (next : String → List String) (maxDepth : Option Int) (n : Nat)
    (seen : List String) : run next maxDepth n ⟨seen, []⟩ = ⟨seen, []⟩ := by
  induction n with
  | zero => rfl
  | succ n ih => exact ih

/-- As many steps as there are nodes of a distance in the queue expand all of them. -/
theorem run_front (next : String → List String) (within : beyond maxDepth n = false)
    (ids later seen : List String) :
    run next maxDepth ids.length ⟨seen, ids.map (·, n) ++ later.map (·, n + 1)⟩ =
      ⟨seen ++ unseen seen (ids.flatMap next),
        (later ++ unseen seen (ids.flatMap next)).map (·, n + 1)⟩ := by
  induction ids generalizing later seen with
  | nil => simp [run, unseen]
  | cons id ids ih =>
    have expand : step next maxDepth ⟨seen, (id :: ids).map (·, n) ++ later.map (·, n + 1)⟩ =
        ⟨seen ++ unseen seen (next id),
          ids.map (·, n) ++ (later ++ unseen seen (next id)).map (·, n + 1)⟩ := by
      rw [List.map_cons, List.cons_append, step]
      simp [within]
    rw [List.length_cons, run, expand, ih, List.flatMap_cons, unseen_append]
    simp only [List.append_assoc]

/-- A traversal comes to each layer within the bound, after one step for each node that it has
expanded by then. -/
theorem run_layer (next : String → List String) (id : String)
    (within : ∀ m < n, beyond maxDepth m = false) :
    ∃ steps, steps + (layer next id n).front.length = (layer next id n).seen.length ∧
      run next maxDepth steps (start id) =
        ⟨(layer next id n).seen, (layer next id n).front.map (·, n)⟩ := by
  induction n with
  | zero => exact ⟨0, rfl, rfl⟩
  | succ n ih =>
    obtain ⟨steps, count, come⟩ := ih fun m hm => within m (Nat.lt_succ_of_lt hm)
    have expand := run_front next (within n (Nat.lt_succ_self n))
      (layer next id n).front [] (layer next id n).seen
    rw [List.map_nil, List.append_nil, List.nil_append] at expand
    refine ⟨steps + (layer next id n).front.length, ?_, ?_⟩
    · rw [count, seen_succ, List.length_append]
    · rw [run_add, come]
      exact expand

/-- Without a bound, as many steps as there are nodes are enough to meet all that can be
reached. -/
theorem run_unbounded {all : List String} (hid : id ∈ all)
    (closed : ∀ u ∈ all, ∀ v ∈ next u, v ∈ all) :
    run next none (all.length + 1) (start id) = ⟨(layer next id all.length).seen, []⟩ := by
  have within : ∀ m < all.length, beyond none m = false := fun _ _ => rfl
  obtain ⟨steps, count, come⟩ := run_layer next id within
  rw [front_eq_nil hid closed] at count come
  have bounded := length_seen_le hid closed all.length
  obtain ⟨idle, total⟩ : ∃ idle, all.length + 1 = steps + idle :=
    Nat.exists_eq_add_of_le (by rw [List.length_nil] at count; omega)
  rw [total, run_add, come]
  exact run_of_ended next none idle _

/-- Nodes beyond the bound are only taken off the queue. -/
theorem seen_run_of_beyond {queue : List (String × Nat)}
    (far : ∀ e ∈ queue, beyond maxDepth e.2 = true) (n : Nat) (seen : List String) :
    (run next maxDepth n ⟨seen, queue⟩).seen = seen := by
  induction n generalizing queue with
  | zero => rfl
  | succ n ih =>
    cases queue with
    | nil => rw [run_of_ended]
    | cons e queue =>
      have drop : step next maxDepth ⟨seen, e :: queue⟩ = ⟨seen, queue⟩ := by
        simp [step, far e List.mem_cons_self]
      rw [run, drop]
      exact ih fun d hd => far d (List.mem_cons_of_mem e hd)

/-- With a bound, as many steps as there are nodes are enough to meet all layers that the bound
admits: one more than the bound says, since it counts the hops beyond the direct neighbours. -/
theorem seen_run_bounded {all : List String} (hid : id ∈ all)
    (closed : ∀ u ∈ all, ∀ v ∈ next u, v ∈ all) (k : Int) :
    (run next (some k) (all.length + 1) (start id)).seen = (layer next id (k + 1).toNat).seen := by
  have within : ∀ m < (k + 1).toNat, beyond (some k) m = false := by
    intro m hm
    simp only [beyond, Option.any_some, decide_eq_false_iff_not]
    omega
  obtain ⟨steps, count, come⟩ := run_layer next id within
  have bounded := length_seen_le hid closed (k + 1).toNat
  obtain ⟨idle, total⟩ : ∃ idle, all.length + 1 = steps + idle :=
    Nat.exists_eq_add_of_le (by omega)
  rw [total, run_add, come]
  refine seen_run_of_beyond (fun e he => ?_) idle _
  obtain ⟨v, -, rfl⟩ := List.mem_map.1 he
  simp only [beyond, Option.any_some, decide_eq_true_eq]
  omega

end Traversal

/-! ## Traversals of a graph -/

namespace Store.Indexes

variable {g : Store} {m : Multigraph}

/-- Whatever direction they are followed in, edges lead to nodes. -/
theorem mem_ids_of_mem_adjacent (h : g.Indexes m) {types : Option (List String)}
    {direction : Direction} {u v : String} (hv : v ∈ g.adjacent types direction u) :
    v ∈ g.ids := by
  cases direction with
  | outgoing =>
    obtain ⟨e, he, rfl⟩ := List.mem_map.1 hv
    exact (h.ends e (h.leaving.mem_edgesAt.1 he).1).2
  | incoming =>
    obtain ⟨e, he, rfl⟩ := List.mem_map.1 hv
    exact (h.ends e (h.reaching.mem_edgesAt.1 he).1).1

/-- There are no more layers than nodes. -/
theorem front_nodeCount (h : g.Indexes m) {id : String} (hid : id ∈ g.ids)
    (types : Option (List String)) (direction : Direction) :
    (layer (g.adjacent types direction) id g.nodeCount).front = [] := by
  rw [← length_ids]
  apply front_eq_nil hid
  intro u _ v hv
  exact h.mem_ids_of_mem_adjacent hv

theorem transitive_eq (h : g.Indexes m) {id : String} (hid : id ∈ g.ids)
    (types : Option (List String)) (direction : Direction) :
    g.transitive id types direction =
      .ok (layer (g.adjacent types direction) id g.nodeCount).seen.tail := by
  have whole := Traversal.run_unbounded hid fun u _ v (hv : v ∈ g.adjacent types direction u) =>
    h.mem_ids_of_mem_adjacent hv
  rw [length_ids] at whole
  rw [transitive, if_pos (contains_eq_true_iff.2 hid), whole]

theorem transitive_bounded_eq (h : g.Indexes m) {id : String} (hid : id ∈ g.ids)
    (types : Option (List String)) (direction : Direction) (k : Int) :
    g.transitive id types direction (some k) =
      .ok (layer (g.adjacent types direction) id (k + 1).toNat).seen.tail := by
  have met := Traversal.seen_run_bounded hid (fun u _ v
    (hv : v ∈ g.adjacent types direction u) => h.mem_ids_of_mem_adjacent hv) k
  rw [length_ids] at met
  rw [transitive, if_pos (contains_eq_true_iff.2 hid), met]

/-- An unbounded traversal finds each node that can be reached once, and the start not at all. -/
theorem transitive_exact (h : g.Indexes m) {id : String} (hid : id ∈ g.ids)
    (types : Option (List String)) (direction : Direction) :
    ∃ found, g.transitive id types direction = .ok found ∧ found.Nodup ∧
      ∀ v, v ∈ found ↔ v ≠ id ∧ Reaches (g.adjacent types direction) id v := by
  have ended := h.front_nodeCount hid types direction
  refine ⟨_, h.transitive_eq hid types direction, (nodup_seen _ id _).tail, fun v => ?_⟩
  rw [mem_tail_seen_iff, mem_seen_iff_reaches ended]

end Store.Indexes

end CodeGraph

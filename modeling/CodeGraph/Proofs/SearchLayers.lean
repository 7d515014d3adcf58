import CodeGraph.Proofs.Distances
import CodeGraph.Proofs.FoundPaths

/-!
# Searches layer by layer

A search expands the nodes in the order of their distances, and each node that it meets is one edge
farther than the one it is met from. So when it stops, the target follows no node that is nearer,
and the way back has as many edges as the distance of the node at which it stopped: what is found is
a shortest way. When it ends without stopping, the target follows no node that may be expanded. All
of this also holds of a search for the start itself, which comes back to it.

Main definitions:

- `Search.Leveled`: each node was met from one that is one edge nearer to the start;
- `Search.InLayer`: a search that has expanded some nodes of a layer and all those before;
- `Search.StoppedAt`, `Search.Over`: the two ways in which a search ends.

Main statements:

- `Search.InLayer.step`: what a step makes of a search that is in the middle of a layer;
- `Search.ended_run`: a run of enough steps ends;
- `Search.exists_wayBack_of_stopped`: the way back is found, whatever the search stopped at;
- `Search.wayTo_cases`: the way that is found is a shortest one, and none is found only if there is
  none.
-/
namespace CodeGraph

section Layers

variable {next : String → List String} {id v : String} {k m n : Nat}

/-- An id is in one layer only. -/
theorem front_unique (hm : v ∈ (layer next id m).front) (hn : v ∈ (layer next id n).front) :
    m = n :=
  (mem_front_iff_isLeast.1 hm).unique (mem_front_iff_isLeast.1 hn)

/-- Where a walk leads, there is a layer, which is not farther than the walk is long. -/
theorem Walk.exists_front (h : Walk (Follows next) k id v) :
    ∃ n, v ∈ (layer next id n).front ∧ n ≤ k := by
  obtain ⟨n, least, le⟩ := h.exists_distance
  exact ⟨n, mem_front_iff_isLeast.2 least, le⟩

end Layers

namespace Search

variable {next : String → List String} {maxHops : Option Int} {source target : String}
  {s : Search} {origins : Table String String} {id : String} {m n size : Nat}
  {expanded waiting : List String}

/-! ## Bounds -/

/-- Whether a path of so many edges stays within a bound. -/
def WithinHops (maxHops : Option Int) (k : Nat) : Prop :=
  ∀ bound, maxHops = some bound → (k : Int) ≤ bound

theorem WithinHops.of_le (h : WithinHops maxHops n) (le : m ≤ n) : WithinHops maxHops m := by
  intro bound same
  have bounded := h bound same
  omega

/-- A node may be expanded when the paths that come to the nodes after it stay within the bound. -/
theorem exhausted_eq_false_iff : exhausted maxHops n = false ↔ WithinHops maxHops (n + 1) := by
  cases maxHops with
  | none => simp [exhausted, WithinHops]
  | some bound =>
    simp only [exhausted, Option.any_some, decide_eq_false_iff_not, WithinHops, Option.some.injEq,
      forall_eq']
    omega

theorem exhausted_of_le (h : exhausted maxHops m = true) (le : m ≤ n) :
    exhausted maxHops n = true := by
  by_contra open_n
  have within := exhausted_eq_false_iff.1 (eq_false_of_ne_true open_n)
  have open_m := exhausted_eq_false_iff.2 (within.of_le (Nat.succ_le_succ le))
  rw [open_m] at h
  cases h

/-! ## Origins -/

/-- Each node that was met was met from a known one that is one edge nearer to the start. -/
def Leveled (next : String → List String) (source : String) (origins : Table String String) :
    Prop :=
  ∀ v ∈ origins.keys, ∃ u k, origins.get? v = some u ∧ u ∈ source :: origins.keys ∧
    u ∈ (layer next source k).front ∧ v ∈ (layer next source (k + 1)).front

/-- Nodes of the next layer may be met from a node. -/
theorem Leveled.note (h : Leveled next source origins) (known : id ∈ source :: origins.keys)
    (level : id ∈ (layer next source n).front) {ids : List String} (distinct : ids.Nodup)
    (fresh : ∀ v ∈ ids, v ∉ origins.keys)
    (further : ∀ v ∈ ids, v ∈ (layer next source (n + 1)).front) :
    Leveled next source (note origins id ids) := by
  have keys := keys_note distinct fresh id
  have stays {u : String} (hu : u ∈ source :: origins.keys) :
      u ∈ source :: (Search.note origins id ids).keys := by
    rw [keys, ← List.cons_append]
    exact List.mem_append_left ids hu
  intro v hv
  rw [get?_note]
  by_cases new : v ∈ ids
  · exact ⟨id, n, if_pos new, stays known, level, further v new⟩
  · rw [keys, List.mem_append] at hv
    obtain ⟨u, k, found, hu, near, far⟩ := h v (hv.resolve_right new)
    exact ⟨u, k, by rw [if_neg new, found], stays hu, near, far⟩

/-- From a node in some layer the way back leads to the start in as many edges. -/
theorem Leveled.exists_wayBack (h : Leveled next source origins) {k : Nat}
    (known : id ∈ source :: origins.keys) (level : id ∈ (layer next source k).front) {steps : Nat}
    (enough : k < steps) (path : List String) :
    ∃ way, wayBack? origins source steps id path = some way ∧
      way.length = k + 1 + path.length := by
  induction steps generalizing id k path with
  | zero => omega
  | succ steps ih =>
    rw [wayBack?]
    by_cases home : id = source
    · have first : k = 0 := front_unique (n := 0) level (List.mem_singleton.2 home)
      refine ⟨id :: path, if_pos home, ?_⟩
      rw [first, List.length_cons]
      omega
    · obtain ⟨u, j, found, hu, near, far⟩ := h id ((List.mem_cons.1 known).resolve_left home)
      have one_more : k = j + 1 := front_unique level far
      obtain ⟨way, back, length⟩ := ih hu near (by omega) (id :: path)
      refine ⟨way, ?_, ?_⟩
      · rw [if_neg home, found]
        exact back
      · rw [length, one_more, List.length_cons]
        omega

/-! ## Where a search stands -/

/-- What the expanded nodes of a layer have added to the next one. -/
def added (next : String → List String) (source : String) (n : Nat) (expanded : List String) :
    List String :=
  unseen (layer next source n).seen (expanded.flatMap next)

/-- A search that is in the middle of a layer. It has expanded the nodes of the layers before and
some nodes of this one, and the target follows none of them. -/
structure InLayer (next : String → List String) (source target : String) (n : Nat)
    (expanded waiting : List String) (s : Search) : Prop where
  running : s.last = none
  front : (layer next source n).front = expanded ++ waiting
  known : source :: s.origins.keys = (layer next source n).seen ++ added next source n expanded
  queue : s.queue = waiting.map (·, n) ++ (added next source n expanded).map (·, n + 1)
  leveled : Leveled next source s.origins
  missed : ∀ m < n, ∀ v ∈ (layer next source m).front, target ∉ next v
  passed : ∀ v ∈ expanded, target ∉ next v

/-- A search that has stopped at a node, which the target follows as it follows no nearer one. -/
structure StoppedAt (next : String → List String) (maxHops : Option Int) (source target : String)
    (n : Nat) (id : String) (s : Search) : Prop where
  last : s.last = some id
  known : id ∈ source :: s.origins.keys
  level : id ∈ (layer next source n).front
  within : WithinHops maxHops (n + 1)
  follows : target ∈ next id
  leveled : Leveled next source s.origins
  missed : ∀ m < n, ∀ v ∈ (layer next source m).front, target ∉ next v

/-- A search that has nothing left to expand. The target follows no node that it might expand. -/
structure Over (next : String → List String) (maxHops : Option Int) (source target : String)
    (s : Search) : Prop where
  running : s.last = none
  spent : ∀ e ∈ s.queue, exhausted maxHops e.2 = true
  missed : ∀ n, WithinHops maxHops (n + 1) → ∀ v ∈ (layer next source n).front, target ∉ next v

theorem inLayer_begin (next : String → List String) (source target : String) :
    InLayer next source target 0 [] [source] (begin source) where
  running := rfl
  front := rfl
  known := rfl
  queue := rfl
  leveled := by
    intro v hv
    cases hv
  missed := by
    intro m lt
    omega
  passed := by simp

theorem added_concat (next : String → List String) (source : String) (n : Nat)
    (expanded : List String) (id : String) :
    added next source n (expanded ++ [id]) = added next source n expanded ++
      unseen ((layer next source n).seen ++ added next source n expanded) (next id) := by
  rw [added, List.flatMap_append, List.flatMap_singleton, unseen_append]
  rfl

/-- Once all nodes of a layer are expanded, they have added the next layer. -/
theorem InLayer.added_eq (h : InLayer next source target n expanded [] s) :
    added next source n expanded = (layer next source (n + 1)).front := by
  have front := h.front
  rw [List.append_nil] at front
  rw [added, ← front]
  rfl

theorem InLayer.turn (h : InLayer next source target n expanded [] s) :
    InLayer next source target (n + 1) [] (layer next source (n + 1)).front s where
  running := h.running
  front := rfl
  known := by
    have known := h.known
    rw [h.added_eq, ← seen_succ] at known
    rw [known, added, List.flatMap_nil, unseen, List.append_nil]
  queue := by
    have queue := h.queue
    rw [h.added_eq] at queue
    rw [queue, added, List.flatMap_nil, unseen, List.map_nil, List.map_nil, List.nil_append,
      List.append_nil]
  leveled := h.leveled
  missed := by
    intro m lt v hv
    rcases Nat.lt_succ_iff_lt_or_eq.1 lt with before | rfl
    · exact h.missed m before v hv
    · rw [h.front, List.append_nil] at hv
      exact h.passed v hv
  passed := by simp

/-! ## A step -/

section Step

/-- The node at the head of the queue, and the layer that it is in. -/
theorem InLayer.head (h : InLayer next source target n expanded (id :: waiting) s) :
    s.queue = (id, n) :: (waiting.map (·, n) ++ (added next source n expanded).map (·, n + 1)) ∧
      id ∈ (layer next source n).front ∧ id ∈ source :: s.origins.keys := by
  have level : id ∈ (layer next source n).front := by simp [h.front]
  refine ⟨h.queue, level, ?_⟩
  rw [h.known]
  exact List.mem_append_left _ (walk_of_mem_front level).mem_seen

theorem InLayer.expand (h : InLayer next source target n expanded (id :: waiting) s)
    (within : exhausted maxHops n = false) (miss : target ∉ next id) :
    InLayer next source target n (expanded ++ [id]) waiting
      (Search.step next maxHops source target s) := by
  obtain ⟨queue, level, known⟩ := h.head
  have next_state : Search.step next maxHops source target s =
      { s with
        origins := note s.origins id (unseen (source :: s.origins.keys) (next id))
        queue := waiting.map (·, n) ++ (added next source n expanded).map (·, n + 1) ++
          (unseen (source :: s.origins.keys) (next id)).map (·, n + 1) } := by
    simp [Search.step, h.running, queue, within, miss]
  have fresh : ∀ v ∈ unseen (source :: s.origins.keys) (next id), v ∉ s.origins.keys := by
    intro v hv old
    exact (mem_unseen_iff.1 hv).2 (List.mem_cons_of_mem source old)
  have keys := keys_note (nodup_unseen (source :: s.origins.keys) (next id)) fresh id
  rw [next_state]
  refine ⟨h.running, ?_, ?_, ?_, ?_, h.missed, ?_⟩
  · rw [h.front, List.append_assoc, List.singleton_append]
  · dsimp only
    rw [keys, ← List.cons_append, h.known, added_concat, List.append_assoc]
  · rw [added_concat, ← h.known, List.map_append, List.append_assoc]
  · apply h.leveled.note known level (nodup_unseen _ _) fresh
    intro v hv
    obtain ⟨edge, new⟩ := mem_unseen_iff.1 hv
    rw [h.known, List.mem_append, not_or] at new
    exact mem_front_succ_iff.2 ⟨⟨id, level, edge⟩, new.1⟩
  · intro v hv
    rcases List.mem_append.1 hv with before | here
    · exact h.passed v before
    · rw [List.mem_singleton.1 here]
      exact miss

theorem InLayer.stop (h : InLayer next source target n expanded (id :: waiting) s)
    (within : exhausted maxHops n = false) (hit : target ∈ next id) :
    StoppedAt next maxHops source target n id (Search.step next maxHops source target s) := by
  obtain ⟨queue, level, known⟩ := h.head
  have next_state : Search.step next maxHops source target s = { s with last := some id } := by
    simp [Search.step, h.running, queue, within, hit]
  rw [next_state]
  exact ⟨rfl, known, level, exhausted_eq_false_iff.1 within, hit, h.leveled, h.missed⟩

/-- When the nodes of a layer may not be expanded, those of the next one may not be either. -/
theorem InLayer.give_up (h : InLayer next source target n expanded (id :: waiting) s)
    (far : exhausted maxHops n = true) :
    Over next maxHops source target (Search.step next maxHops source target s) := by
  obtain ⟨queue, -, -⟩ := h.head
  have next_state : Search.step next maxHops source target s =
      { s with queue := waiting.map (·, n) ++ (added next source n expanded).map (·, n + 1) } := by
    simp [Search.step, h.running, queue, far]
  rw [next_state]
  refine ⟨h.running, ?_, ?_⟩
  · intro e he
    rcases List.mem_append.1 he with here | later
    · obtain ⟨v, -, rfl⟩ := List.mem_map.1 here
      exact far
    · obtain ⟨v, -, rfl⟩ := List.mem_map.1 later
      exact exhausted_of_le far n.le_succ
  · intro m within v hv
    rcases Nat.lt_or_ge m n with before | after
    · exact h.missed m before v hv
    · have open_m := exhausted_eq_false_iff.2 within
      rw [exhausted_of_le far after] at open_m
      cases open_m

/-- A search in the middle of a layer expands a node, stops at it, or is over. -/
theorem InLayer.step (h : InLayer next source target n expanded (id :: waiting) s)
    (maxHops : Option Int) :
    InLayer next source target n (expanded ++ [id]) waiting
        (Search.step next maxHops source target s) ∨
      StoppedAt next maxHops source target n id (Search.step next maxHops source target s) ∨
      Over next maxHops source target (Search.step next maxHops source target s) := by
  cases far : exhausted maxHops n with
  | true => exact .inr (.inr (h.give_up far))
  | false =>
    by_cases hit : target ∈ next id
    · exact .inr (.inl (h.stop far hit))
    · exact .inl (h.expand far hit)

/-- After a last layer nothing is left. -/
theorem InLayer.over (h : InLayer next source target n expanded [] s)
    (ended : (layer next source (n + 1)).front = []) : Over next maxHops source target s where
  running := h.running
  spent := by
    intro e he
    rw [h.queue, h.added_eq, ended] at he
    cases he
  missed := by
    intro m _ v hv
    rcases Nat.lt_or_ge m (n + 1) with before | after
    · exact h.turn.missed m before v hv
    · rw [front_eq_nil_of_le ended after] at hv
      cases hv

end Step

/-! ## A run -/

theorem StoppedAt.run (h : StoppedAt next maxHops source target n id s) (steps : Nat) :
    StoppedAt next maxHops source target n id (run next maxHops source target steps s) := by
  induction steps with
  | zero => exact h
  | succ steps ih =>
    rw [Search.run, step_of_stopped h.last]
    exact ih

theorem Over.step (h : Over next maxHops source target s) :
    Over next maxHops source target (step next maxHops source target s) := by
  rcases queue : s.queue with _ | ⟨⟨id, distance⟩, rest⟩
  · have idle : Search.step next maxHops source target s = s := by
      simp [Search.step, h.running, queue]
    rw [idle]
    exact h
  · have spent := h.spent
    rw [queue] at spent
    have far : exhausted maxHops distance = true := spent _ List.mem_cons_self
    have drop : Search.step next maxHops source target s = { s with queue := rest } := by
      simp [Search.step, h.running, queue, far]
    rw [drop]
    exact ⟨h.running, fun e he => spent e (List.mem_cons_of_mem _ he), h.missed⟩

theorem Over.run (h : Over next maxHops source target s) (steps : Nat) :
    Over next maxHops source target (run next maxHops source target steps s) := by
  induction steps generalizing s with
  | zero => exact h
  | succ steps ih => exact ih h.step

/-- A run ends when it has a step for each node that waits and for each one that may still be
met. -/
theorem InLayer.run (h : InLayer next source target n expanded (id :: waiting) s)
    (few : ∀ m, (layer next source m).seen.length ≤ size) (maxHops : Option Int) {steps : Nat}
    (enough : size + (id :: waiting).length < steps + (layer next source n).seen.length) :
    (∃ m v, StoppedAt next maxHops source target m v
        (run next maxHops source target steps s)) ∨
      Over next maxHops source target (run next maxHops source target steps s) := by
  induction steps generalizing n id expanded waiting s with
  | zero =>
    have bounded := few n
    omega
  | succ steps ih =>
    rw [Search.run]
    rcases h.step maxHops with onward | stopped | spent
    · cases waiting with
      | cons v waiting =>
        apply ih onward
        rw [List.length_cons] at enough
        omega
      | nil =>
        cases front : (layer next source (n + 1)).front with
        | nil => exact .inr ((onward.over front).run steps)
        | cons v waiting =>
          have turned := onward.turn
          rw [front] at turned
          apply ih turned
          rw [seen_succ, front, List.length_append]
          rw [List.length_singleton] at enough
          omega
    · exact .inl ⟨n, id, stopped.run steps⟩
    · exact .inr (spent.run steps)

/-- A search of one step more than there are nodes comes to its end. -/
theorem ended_run (few : ∀ m, (layer next source m).seen.length ≤ size) (maxHops : Option Int)
    (target : String) :
    (∃ n id, StoppedAt next maxHops source target n id
        (run next maxHops source target (size + 1) (begin source))) ∨
      Over next maxHops source target
        (run next maxHops source target (size + 1) (begin source)) := by
  apply (inLayer_begin next source target).run few maxHops
  have start : (layer next source 0).seen.length = 1 := rfl
  rw [start, List.length_singleton]
  omega

/-! ## What is found -/

/-- The way back from the node at which a search has stopped is as long as the node is far. -/
theorem StoppedAt.exists_wayBack (h : StoppedAt next maxHops source target n id s)
    (few : ∀ m, (layer next source m).seen.length ≤ size) :
    ∃ way, wayBack? s.origins source (size + 1) id [] = some way ∧ way.length = n + 1 := by
  have far : n < (layer next source n).seen.length := lt_length_seen (List.ne_nil_of_mem h.level)
  have bounded := few n
  exact h.leveled.exists_wayBack h.known h.level (by omega) []

/-- The way back is found from every node at which a search stops. -/
theorem exists_wayBack_of_stopped (few : ∀ m, (layer next source m).seen.length ≤ size)
    (stopped : (run next maxHops source target (size + 1) (begin source)).last = some id) :
    ∃ way, wayBack? (run next maxHops source target (size + 1) (begin source)).origins source
      (size + 1) id [] = some way := by
  rcases ended_run few maxHops target with ⟨n, v, there⟩ | spent
  · obtain rfl := Option.some.inj (there.last.symm.trans stopped)
    obtain ⟨way, back, -⟩ := there.exists_wayBack few
    exact ⟨way, back⟩
  · rw [spent.running] at stopped
    cases stopped

/-- The last edge of a walk starts at a node of a layer. -/
theorem exists_front_of_walk {k : Nat} (walk : Walk (Follows next) (k + 1) source target) :
    ∃ m v, v ∈ (layer next source m).front ∧ target ∈ next v ∧ m ≤ k := by
  obtain ⟨v, before, last⟩ := walk.exists_last
  obtain ⟨m, level, le⟩ := before.exists_front
  exact ⟨m, v, level, last, le⟩

/-- A search finds a way that no walk with an edge is shorter than, or there is no such walk within
the bound. -/
theorem wayTo_cases (few : ∀ m, (layer next source m).seen.length ≤ size) (maxHops : Option Int)
    (target : String) :
    (∃ way n, wayTo? next maxHops source target size = some way ∧ way.length = n + 1 ∧
        WithinHops maxHops (n + 1) ∧
        IsLeast {k | Walk (Follows next) (k + 1) source target} n) ∨
      (wayTo? next maxHops source target size = none ∧
        ∀ k, WithinHops maxHops (k + 1) → ¬ Walk (Follows next) (k + 1) source target) := by
  rcases ended_run few maxHops target with ⟨n, id, stopped⟩ | spent
  · obtain ⟨way, back, length⟩ := stopped.exists_wayBack few
    refine .inl ⟨way, n, ?_, length, stopped.within, ?_, ?_⟩
    · rw [wayTo?, stopped.last, Option.bind_some, back]
    · exact (walk_of_mem_front stopped.level).tail stopped.follows
    · intro k walk
      obtain ⟨m, v, level, edge, le⟩ := exists_front_of_walk walk
      by_contra shorter
      exact stopped.missed m (by omega) v level edge
  · refine .inr ⟨?_, ?_⟩
    · rw [wayTo?, spent.running, Option.bind_none]
    · intro k within walk
      obtain ⟨m, v, level, edge, le⟩ := exists_front_of_walk walk
      exact spent.missed m (within.of_le (by omega)) v level edge

end Search

end CodeGraph

import CodeGraph.Graph.Path
import CodeGraph.Proofs.TraversalLayers

/-!
# Searches for a path

A search for a target goes step by step with a traversal from the same start whose bound is one hop
shorter, because a traversal counts the hops beyond the direct neighbours. The search stops in the
step in which the traversal meets the target. By then it knows for each node that it met an earlier
one from which it came, so the way back always leads to the start.

Main definitions:

- `Search.Rooted`: every node was met from one that was met before;
- `Search.Tracks`: a search has met what a traversal has met.

Main statements:

- `Search.track_step`, `Search.track_run`: a search goes with its traversal until it stops;
- `Search.Rooted.exists_wayBack`: from every node that was met the way back leads to the start;
- `Store.path_iff_traversed`: a path of so many edges is found exactly to what a traversal with one
  hop less meets.
-/
namespace CodeGraph

namespace Search

variable {next : String → List String} {maxHops : Option Int} {source target : String}

/-! ## Origins -/

theorem get?_note (origins : Table String String) (origin : String) (ids : List String)
    (v : String) :
    (note origins origin ids).get? v = if v ∈ ids then some origin else origins.get? v := by
  induction ids generalizing origins with
  | nil => rfl
  | cons id ids ih =>
    have rest := ih (origins.insert id origin)
    rw [Table.get?_insert] at rest
    rw [note, List.foldl_cons]
    refine rest.trans ?_
    by_cases later : v ∈ ids
    · rw [if_pos later, if_pos (List.mem_cons_of_mem id later)]
    · simp only [later, if_false, List.mem_cons, or_false]

theorem keys_note {origins : Table String String} {ids : List String} (distinct : ids.Nodup)
    (fresh : ∀ v ∈ ids, v ∉ origins.keys) (origin : String) :
    (note origins origin ids).keys = origins.keys ++ ids := by
  induction ids generalizing origins with
  | nil => exact (List.append_nil _).symm
  | cons id ids ih =>
    obtain ⟨once, distinct⟩ := List.nodup_cons.1 distinct
    have added : (origins.insert id origin).keys = origins.keys ++ [id] := by
      rw [Table.keys_insert, if_neg (fresh id List.mem_cons_self)]
    have later : ∀ v ∈ ids, v ∉ (origins.insert id origin).keys := by
      intro v hv known
      rw [added, List.mem_append, List.mem_singleton] at known
      rcases known with old | rfl
      · exact fresh v (List.mem_cons_of_mem id hv) old
      · exact once hv
    rw [note, List.foldl_cons]
    refine (ih distinct later).trans ?_
    rw [added, List.append_assoc, List.singleton_append]

/-- Every node that was met was met from one that was met before. -/
def Rooted (next : String → List String) (source : String) (origins : Table String String) :
    Prop :=
  ∀ v ∈ origins.keys, ∃ u, origins.get? v = some u ∧ v ∈ next u ∧
    (source :: origins.keys).idxOf u < (source :: origins.keys).idxOf v

/-- What a node adds comes after it. -/
theorem Rooted.note {origins : Table String String} (h : Rooted next source origins) {id : String}
    (hid : id ∈ source :: origins.keys) :
    Rooted next source
      (note origins id (unseen (source :: origins.keys) (next id))) := by
  have fresh : ∀ v ∈ unseen (source :: origins.keys) (next id), v ∉ source :: origins.keys :=
    fun v hv => (mem_unseen_iff.1 hv).2
  have keys := keys_note (nodup_unseen (source :: origins.keys) (next id))
    (fun v hv old => fresh v hv (List.mem_cons_of_mem source old)) id
  have stays {v : String} (hv : v ∈ source :: origins.keys) :
      (source :: (Search.note origins id
          (unseen (source :: origins.keys) (next id))).keys).idxOf v =
        (source :: origins.keys).idxOf v := by
    rw [keys, ← List.cons_append, List.idxOf_append_of_mem hv]
  intro v hv
  rw [get?_note]
  by_cases new : v ∈ unseen (source :: origins.keys) (next id)
  · refine ⟨id, if_pos new, (mem_unseen_iff.1 new).1, ?_⟩
    rw [stays hid, keys, ← List.cons_append, List.idxOf_append_of_notMem (fresh v new)]
    exact Nat.lt_add_right _ (List.idxOf_lt_length_of_mem hid)
  · rw [keys, List.mem_append] at hv
    have old := hv.resolve_right new
    obtain ⟨u, found, edge, before⟩ := h v old
    have known : v ∈ source :: origins.keys := List.mem_cons_of_mem source old
    have hu : u ∈ source :: origins.keys :=
      List.idxOf_lt_length_iff.1 (before.trans (List.idxOf_lt_length_of_mem known))
    refine ⟨u, by rw [if_neg new, found], edge, ?_⟩
    rw [stays hu, stays known]
    exact before

/-- The way back from a node that was met comes to the start: each origin stands before the node
that was met from it. -/
theorem Rooted.exists_wayBack {origins : Table String String} (h : Rooted next source origins)
    {n : Nat} {id : String} (hid : id ∈ source :: origins.keys)
    (enough : (source :: origins.keys).idxOf id < n) (path : List String) :
    ∃ way, wayBack? origins source n id path = some way := by
  induction n generalizing id path with
  | zero => exact absurd enough (Nat.not_lt_zero _)
  | succ n ih =>
    rw [wayBack?]
    by_cases home : id = source
    · exact ⟨_, if_pos home⟩
    · obtain ⟨u, found, -, before⟩ := h id ((List.mem_cons.1 hid).resolve_left home)
      have hu : u ∈ source :: origins.keys :=
        List.idxOf_lt_length_iff.1 (before.trans (List.idxOf_lt_length_of_mem hid))
      rw [if_neg home, found]
      exact ih hu (by omega) (id :: path)

/-! ## A search and a traversal -/

/-- The bound on the depth of a traversal that goes as far as a path may. -/
def depthOf (maxHops : Option Int) : Option Int := maxHops.map (· - 1)

theorem exhausted_eq (maxHops : Option Int) (distance : Nat) :
    exhausted maxHops distance = Traversal.beyond (depthOf maxHops) distance := by
  cases maxHops with
  | none => rfl
  | some k =>
    simp only [exhausted, Traversal.beyond, depthOf, Option.map_some, Option.any_some,
      decide_eq_decide]
    omega

/-- A search that has not stopped has met what a traversal has met, and the target is not among
it. -/
structure Tracks (next : String → List String) (source target : String) (s : Search)
    (t : Traversal) : Prop where
  running : s.last = none
  seen : t.seen = source :: s.origins.keys
  queue : t.queue = s.queue
  queue_seen : ∀ e ∈ s.queue, e.1 ∈ source :: s.origins.keys
  rooted : Rooted next source s.origins
  missed : target ∉ t.seen

/-- A search has stopped at a node that the target follows, and a traversal has met the target. -/
structure Arrived (next : String → List String) (source target : String) (s : Search)
    (t : Traversal) : Prop where
  stopped : ∃ id ∈ source :: s.origins.keys, s.last = some id
  rooted : Rooted next source s.origins
  within : source :: s.origins.keys <+: t.seen
  met : target ∈ t.seen

variable {s : Search} {t : Traversal}

theorem tracks_begin (next : String → List String) (other : source ≠ target) :
    Tracks next source target (begin source) (Traversal.start source) where
  running := rfl
  seen := rfl
  queue := rfl
  queue_seen := by simp [begin]
  rooted := by
    intro v hv
    cases hv
  missed := by simpa [Traversal.start] using other.symm

/-- A step of a search does what a step of the traversal does, or stops where the traversal meets
the target. -/
theorem track_step (h : Tracks next source target s t) :
    Tracks next source target (step next maxHops source target s)
        (Traversal.step next (depthOf maxHops) t) ∨
      Arrived next source target (step next maxHops source target s)
        (Traversal.step next (depthOf maxHops) t) := by
  obtain ⟨origins, queue, last⟩ := s
  obtain ⟨seen, later⟩ := t
  obtain rfl : last = none := h.running
  obtain rfl : seen = source :: origins.keys := h.seen
  obtain rfl : later = queue := h.queue
  have queue_seen : ∀ e ∈ later, e.1 ∈ source :: origins.keys := h.queue_seen
  have rooted : Rooted next source origins := h.rooted
  have missed : target ∉ source :: origins.keys := h.missed
  cases later with
  | nil => exact .inl h
  | cons e rest =>
    obtain ⟨id, distance⟩ := e
    have hid : id ∈ source :: origins.keys := queue_seen _ List.mem_cons_self
    have rest_seen : ∀ d ∈ rest, d.1 ∈ source :: origins.keys := fun d hd =>
      queue_seen d (List.mem_cons_of_mem _ hd)
    simp only [step, Traversal.step, exhausted_eq]
    by_cases far : Traversal.beyond (depthOf maxHops) distance = true
    · rw [if_pos far, if_pos far]
      exact .inl ⟨rfl, rfl, rfl, rest_seen, rooted, missed⟩
    · rw [if_neg far, if_neg far]
      by_cases here : target ∈ next id
      · rw [if_pos here]
        exact .inr ⟨⟨id, hid, rfl⟩, rooted, List.prefix_append _ _,
          List.mem_append_right _ (mem_unseen_iff.2 ⟨here, missed⟩)⟩
      · rw [if_neg here]
        have fresh : ∀ v ∈ unseen (source :: origins.keys) (next id), v ∉ origins.keys :=
          fun v hv old => (mem_unseen_iff.1 hv).2 (List.mem_cons_of_mem source old)
        have keys := keys_note (nodup_unseen (source :: origins.keys) (next id)) fresh id
        refine .inl ⟨rfl, ?_, rfl, fun d hd => ?_, rooted.note hid, fun met => ?_⟩
        · simp only [keys, List.cons_append]
        · simp only [keys, ← List.cons_append]
          rcases List.mem_append.1 hd with old | new
          · exact List.mem_append_left _ (rest_seen d old)
          · obtain ⟨v, hv, rfl⟩ := List.mem_map.1 new
            exact List.mem_append_right _ hv
        · rcases List.mem_append.1 met with old | new
          · exact missed old
          · exact here (mem_unseen_iff.1 new).1

theorem step_of_stopped {id : String} (h : s.last = some id) :
    step next maxHops source target s = s := by
  rw [step, h]

theorem seen_prefix_step (next : String → List String) (maxDepth : Option Int) (t : Traversal) :
    t.seen <+: (Traversal.step next maxDepth t).seen := by
  rw [Traversal.step]
  split
  · exact List.prefix_rfl
  · split
    · exact List.prefix_rfl
    · exact List.prefix_append _ _

/-- A search that has stopped stays where it is, and the traversal loses nothing. -/
theorem Arrived.step (h : Arrived next source target s t) :
    Arrived next source target (step next maxHops source target s)
      (Traversal.step next (depthOf maxHops) t) := by
  obtain ⟨id, -, stopped⟩ := h.stopped
  rw [step_of_stopped stopped]
  have grown := seen_prefix_step next (depthOf maxHops) t
  exact ⟨h.stopped, h.rooted, h.within.trans grown, grown.subset h.met⟩

/-- A search goes with its traversal, or has stopped on the way. -/
theorem track_run (maxHops : Option Int)
    (h : Tracks next source target s t ∨ Arrived next source target s t) (n : Nat) :
    Tracks next source target (run next maxHops source target n s)
        (Traversal.run next (depthOf maxHops) n t) ∨
      Arrived next source target (run next maxHops source target n s)
        (Traversal.run next (depthOf maxHops) n t) := by
  induction n generalizing s t with
  | zero => exact h
  | succ n ih =>
    rcases h with tracks | arrived
    · exact ih (track_step tracks)
    · exact ih (.inr arrived.step)

/-- A way is found exactly when a traversal that goes as far meets the target. -/
theorem exists_wayTo_iff (maxHops : Option Int) (other : source ≠ target) {size : Nat}
    (small : (Traversal.run next (depthOf maxHops) (size + 1)
      (Traversal.start source)).seen.length ≤ size) :
    (∃ way, wayTo? next maxHops source target size = some way) ↔
      target ∈ (Traversal.run next (depthOf maxHops) (size + 1) (Traversal.start source)).seen := by
  simp only [wayTo?]
  rcases track_run maxHops (.inl (tracks_begin next other)) (size + 1) with tracks | arrived
  · rw [tracks.running]
    constructor
    · rintro ⟨way, found⟩
      cases found
    · intro met
      exact absurd met tracks.missed
  · refine ⟨fun _ => arrived.met, fun _ => ?_⟩
    obtain ⟨id, hid, stopped⟩ := arrived.stopped
    rw [stopped, Option.bind_some]
    refine arrived.rooted.exists_wayBack hid ?_ []
    have early := List.idxOf_lt_length_of_mem hid
    have fewer := arrived.within.length_le
    omega

end Search

/-! ## Paths of a graph -/

namespace Store

variable {g : Store} {u v : String}

/-- A path is found between two different nodes exactly when a way to the target is. -/
theorem exists_shortestPath_iff (hu : u ∈ g.ids) (hv : v ∈ g.ids) (other : u ≠ v)
    (maxHops : Option Int) (types : Option (List String)) :
    (∃ path, g.shortestPath u v maxHops types = .ok path) ↔
      ∃ way, Search.wayTo? (fun id => g.neighbors id types) maxHops u v g.nodeCount = some way := by
  simp only [shortestPath, contains_eq_true_iff.2 hu, contains_eq_true_iff.2 hv, Bool.not_true,
    Bool.false_eq_true, if_false, if_neg other]
  cases Search.wayTo? (fun id => g.neighbors id types) maxHops u v g.nodeCount <;> simp

/-- A path of at most so many edges leads from one node to another exactly when the traversal with
one hop less meets the other. -/
theorem Indexes.exists_shortestPath_iff_mem_layer {m : Multigraph} (h : g.Indexes m)
    (hu : u ∈ g.ids) (hv : v ∈ g.ids) (other : u ≠ v) (k : Int) (types : Option (List String)) :
    (∃ path, g.shortestPath u v (some k) types = .ok path) ↔
      v ∈ (layer (g.adjacent types .outgoing) u k.toNat).seen.tail := by
  have closed : ∀ a ∈ g.ids, ∀ b ∈ g.adjacent types .outgoing a, b ∈ g.ids := fun _ _ _ hb =>
    h.mem_ids_of_mem_adjacent hb
  have met := Traversal.seen_run_bounded hu closed (k - 1)
  rw [Int.sub_add_cancel, length_ids] at met
  have few := length_seen_le hu closed k.toNat
  rw [length_ids, ← met] at few
  rw [exists_shortestPath_iff hu hv other, mem_tail_seen_iff, ← met]
  exact (Search.exists_wayTo_iff (some k) other few).trans
    ⟨fun reached => ⟨other.symm, reached⟩, And.right⟩

/-- Paths and traversals count alike. A path of at most so many edges leads from one node to another
exactly when the other is met with one hop less, as the direct neighbours come without a hop; and a
node is met at all exactly when a path with as many edges as there are nodes leads to it. -/
theorem path_iff_traversed (h : g.Reachable) (hu : u ∈ g.ids) (hv : v ∈ g.ids) (other : u ≠ v)
    (types : Option (List String)) :
    (∀ k : Int, (∃ path, g.shortestPath u v (some k) types = .ok path) ↔
      ∃ found, g.transitive u types .outgoing (some (k - 1)) = .ok found ∧ v ∈ found) ∧
    ((∃ found, g.transitive u types .outgoing none = .ok found ∧ v ∈ found) ↔
      ∃ path, g.shortestPath u v (some g.nodeCount) types = .ok path) := by
  obtain ⟨m, indexes⟩ := h.indexes
  constructor
  · intro k
    rw [indexes.exists_shortestPath_iff_mem_layer hu hv other, indexes.transitive_bounded_eq hu,
      Int.sub_add_cancel]
    simp
  · rw [indexes.exists_shortestPath_iff_mem_layer hu hv other, indexes.transitive_eq hu,
      Int.toNat_natCast]
    simp

/-- A chain of calls with a way around it, and a function that cannot be reached. -/
def detour : Store :=
  (empty.applyAll [.addNode ⟨"a", NodeType.function, "a", []⟩,
    .addNode ⟨"b", NodeType.function, "b", []⟩, .addNode ⟨"c", NodeType.function, "c", []⟩,
    .addNode ⟨"d", NodeType.function, "d", []⟩,
    .addEdge ⟨"a", "b", EdgeType.calls, []⟩, .addEdge ⟨"b", "a", EdgeType.calls, []⟩,
    .addEdge ⟨"b", "c", EdgeType.calls, []⟩, .addEdge ⟨"d", "c", EdgeType.calls, []⟩]).1

/-- Two calls away is one hop beyond the direct neighbours. -/
theorem path_iff_traversed_detour :
    detour.Reachable ∧ "a" ∈ detour.ids ∧ "c" ∈ detour.ids ∧ "a" ≠ "c" ∧
    (∃ path, detour.shortestPath "a" "c" (some 2) (some [EdgeType.calls]) = .ok path) ∧
    (¬ ∃ path, detour.shortestPath "a" "c" (some 1) (some [EdgeType.calls]) = .ok path) ∧
    ∃ path, detour.shortestPath "a" "c" (some detour.nodeCount) (some [EdgeType.calls]) =
      .ok path := by
  have reachable : detour.Reachable := ⟨_, rfl⟩
  have start : "a" ∈ detour.ids := by decide
  have goal : "c" ∈ detour.ids := by decide
  have other : "a" ≠ "c" := by decide
  obtain ⟨bounded, unbounded⟩ :=
    path_iff_traversed reachable start goal other (some [EdgeType.calls])
  have near : detour.transitive "a" (some [EdgeType.calls]) .outgoing (some 0) = .ok ["b"] := rfl
  have far : detour.transitive "a" (some [EdgeType.calls]) .outgoing (some 1) =
      .ok ["b", "c"] := rfl
  have all : detour.transitive "a" (some [EdgeType.calls]) .outgoing none = .ok ["b", "c"] := rfl
  refine ⟨reachable, start, goal, other, (bounded 2).2 ⟨_, far, by decide⟩, ?_,
    unbounded.1 ⟨_, all, by decide⟩⟩
  rw [bounded 1]
  rintro ⟨found, run, met⟩
  obtain rfl := Except.ok.inj (near.symm.trans run)
  revert met
  decide

end Store

end CodeGraph

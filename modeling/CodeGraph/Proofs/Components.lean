import CodeGraph.Graph.Cycles
import CodeGraph.Proofs.ComponentSearch

/-!
# Strongly connected components

The search for components ends, and then every node of the selection is in exactly one component,
which holds the nodes that it reaches and that reach it.

Main definitions:

- `ComponentSearch.Sound`: everything a step keeps;
- `ComponentSearch.remaining`: the number of steps that are left.

Main statements:

- `Sound.step`, `Sound.run`: what every step keeps holds after a whole run;
- `Sound.run_finished`: a run of enough steps ends;
- `Store.components_exact`: the components that hold a cycle, in terms of paths along edges.
-/
namespace CodeGraph

namespace ComponentSearch

variable {next : String → List String} {all : List String} {s : ComponentSearch}

/-- Everything that a step of a search for components keeps. -/
structure Sound (next : String → List String) (all : List String) (s : ComponentSearch) : Prop where
  shape : Shape next all s
  linked : Linked next s
  waits : Waits next s

/-! ## What still waits -/

/-- Only the edge that was put aside no longer waits. -/
theorem Waits.advance (h : Waits next s) {id t : String} {ts : List String}
    {rest : List (String × List String)} (hs : s.work = (id, t :: ts) :: rest) {u v : String}
    (hu : u ∈ s.met) (follows : v ∈ next u) (fresh : v ∉ s.met) (hv : v ≠ t) :
    ∃ r, (u, r) ∈ (id, ts) :: rest ∧ v ∈ r := by
  obtain ⟨r, hr, wait⟩ := h u hu v follows fresh
  rw [hs] at hr
  rcases List.mem_cons.1 hr with first | later
  · obtain ⟨rfl, rfl⟩ := Prod.mk.inj first
    exact ⟨ts, by simp, (List.mem_cons.1 wait).resolve_left hv⟩
  · exact ⟨r, by simp [later], wait⟩

theorem Waits.leave (h : Waits next s) {id : String} {rest : List (String × List String)}
    (hs : s.work = (id, []) :: rest) : Waits next { s with work := rest } := by
  intro u hu v follows fresh
  obtain ⟨r, hr, wait⟩ := h u hu v follows fresh
  rw [hs] at hr
  rcases List.mem_cons.1 hr with first | later
  · rw [(Prod.mk.inj first).2] at wait
    cases wait
  · exact ⟨r, later, wait⟩

/-- A node may be entered when everything that waits, that node apart, still does. -/
theorem waits_enter {id : String} (fresh : id ∉ s.met)
    (h : ∀ u ∈ s.met, ∀ v ∈ next u, v ∉ s.met → v ≠ id → ∃ r, (u, r) ∈ s.work ∧ v ∈ r) :
    Waits next (s.enter next id) := by
  intro u hu v follows hv
  rw [met_enter s fresh, List.mem_append, List.mem_singleton] at hu hv
  rw [not_or] at hv
  rcases hu with old | rfl
  · obtain ⟨r, hr, wait⟩ := h u old v follows hv.1 hv.2
    exact ⟨r, by simp [enter, hr], wait⟩
  · exact ⟨next u, by simp [enter], follows⟩

/-! ## A step -/

/-- The last node on the way is reached from all of the way. -/
theorem Sound.reaches_last (h : Sound next all s) {id : String} {targets : List String}
    {rest : List (String × List String)} (hs : s.work = (id, targets) :: rest) {p : String}
    (hp : p ∈ s.way) : Reaches next p id := by
  have stack_id : id ∈ s.stack := h.shape.way_stack (mem_way_of_work hs)
  refine h.linked.way_reaches p hp id stack_id ?_
  rw [way_of_work hs, List.mem_cons] at hp
  rcases hp with rfl | hp
  · exact le_rfl
  · exact (h.shape.index_lt_of_way hs hp).le

theorem Sound.enter_root (h : Sound next all s) (hw : s.work = []) {root : String}
    {roots : List String} (hr : s.roots = root :: roots) (fresh : root ∉ s.met) :
    Sound next all (enter next root { s with roots := roots }) := by
  have shape : Shape next all (s.enter next root) :=
    h.shape.enter fresh (h.shape.roots_within root (by simp [hr]))
  have linked := h.linked.enter h.shape fresh (by simp [way, hw])
  have waits := waits_enter fresh fun u hu v follows hv _ => h.waits u hu v follows hv
  refine ⟨{ shape with roots_within := ?_, all_listed := ?_ }, { linked with }, waits⟩
  · intro v hv
    exact h.shape.roots_within v (by rw [hr]; exact List.mem_cons_of_mem _ hv)
  · intro v hv
    have met_eq : (enter next root { s with roots := roots }).met = s.met ++ [root] :=
      met_enter (s := { s with roots := roots }) fresh
    rw [met_eq, List.mem_append, List.mem_singleton]
    rcases h.shape.all_listed v hv with old | waiting
    · exact .inl (.inl old)
    · rw [hr, List.mem_cons] at waiting
      rcases waiting with rfl | later
      · exact .inl (.inr rfl)
      · exact .inr later

theorem Sound.skip_root (h : Sound next all s) {root : String} {roots : List String}
    (hr : s.roots = root :: roots) (old : root ∈ s.met) :
    Sound next all { s with roots := roots } := by
  refine ⟨{ h.shape with roots_within := ?_, all_listed := ?_ }, { h.linked with }, h.waits⟩
  · intro v hv
    exact h.shape.roots_within v (by rw [hr]; exact List.mem_cons_of_mem _ hv)
  · intro v hv
    rcases h.shape.all_listed v hv with met_v | waiting
    · exact .inl met_v
    · rw [hr, List.mem_cons] at waiting
      rcases waiting with rfl | later
      · exact .inl old
      · exact .inr later

section Look

variable {id t : String} {ts : List String} {rest : List (String × List String)}

theorem Sound.follows_of_work (h : Sound next all s) (hs : s.work = (id, t :: ts) :: rest) :
    t ∈ next id :=
  (h.shape.work_suffix id (t :: ts) (by simp [hs])).subset (by simp)

theorem Sound.enter_next (h : Sound next all s) (within : ∀ u, ∀ v ∈ next u, v ∈ all)
    (hs : s.work = (id, t :: ts) :: rest) (fresh : t ∉ s.met) :
    Sound next all (enter next t { s with work := (id, ts) :: rest }) := by
  have follows := h.follows_of_work hs
  have shape := h.shape.advance hs
  have linked : Linked next { s with work := (id, ts) :: rest } :=
    h.linked.advance hs fun stack_t => absurd (h.shape.stack_met stack_t) fresh
  refine ⟨shape.enter fresh (within id t follows), linked.enter shape fresh fun p hp => ?_,
    waits_enter fresh fun u hu v edge hv ne => h.waits.advance hs hu edge hv ne⟩
  have old : p ∈ s.way := by simpa [way, hs] using hp
  exact (h.reaches_last hs old).tail follows

theorem Sound.pass (h : Sound next all s) (hs : s.work = (id, t :: ts) :: rest) (old : t ∈ s.met)
    (known : t ∈ s.stack → s.linkOf id ≤ s.indexOf t) :
    Sound next all { s with work := (id, ts) :: rest } := by
  refine ⟨h.shape.advance hs, h.linked.advance hs known, fun u hu v follows fresh => ?_⟩
  exact h.waits.advance hs hu follows fresh fun same => fresh (same ▸ old)

/-- The link of a node may be lowered to the number of a node on the stack that it reaches. -/
theorem Sound.lower (h : Sound next all s) {v w : String} (hv : v ∈ s.met) (hw : w ∈ s.stack)
    (path : Reaches next v w) : Sound next all (s.lower v (s.indexOf w)) :=
  ⟨h.shape.lower hv _, h.linked.lower hw path, h.waits⟩

theorem Sound.look (h : Sound next all s) (hs : s.work = (id, t :: ts) :: rest)
    (open_t : t ∈ s.stack) :
    Sound next all
      (ComponentSearch.lower id (s.indexOf t) { s with work := (id, ts) :: rest }) := by
  have met_id : id ∈ s.met := h.shape.stack_met (h.shape.way_stack (mem_way_of_work hs))
  have lowered := h.lower met_id open_t (.single (h.follows_of_work hs))
  refine lowered.pass hs (h.shape.stack_met open_t) fun _ => ?_
  rw [linkOf_lower, if_pos rfl]
  exact Nat.min_le_right _ _

end Look

section Leave

variable {id : String} {rest : List (String × List String)}

theorem Sound.close (h : Sound next all s) (hs : s.work = (id, []) :: rest)
    (own : s.linkOf id = s.indexOf id) :
    Sound next all (ComponentSearch.close id { s with work := rest }) := by
  have stack_id : id ∈ s.stack := h.shape.way_stack (mem_way_of_work hs)
  obtain ⟨top, below, parts⟩ := exists_parts stack_id
  exact ⟨h.shape.close parts hs, h.linked.close h.shape h.waits parts hs own, h.waits.leave hs⟩

/-- The first node on the way keeps its own number as its link. -/
theorem Sound.own_of_first (h : Sound next all s) (hs : s.work = [(id, [])]) :
    s.linkOf id = s.indexOf id := by
  have le := h.shape.link_le id (h.shape.stack_met (h.shape.way_stack (mem_way_of_work hs)))
  by_contra ne
  exact h.linked.exists_parent h.shape hs (lt_of_le_of_ne le ne) rfl

/-- The node before a node on the way may take over its link, which stays what it was. -/
theorem Sound.handOver (h : Sound next all s) {parent : String} {targets : List String}
    (hs : s.work = (id, []) :: (parent, targets) :: rest) :
    Sound next all (s.lower parent (s.linkOf id)) ∧
      (s.lower parent (s.linkOf id)).linkOf id = s.linkOf id := by
  have parent_way : parent ∈ s.way := mem_way_of_rest hs (by simp)
  have parent_lt : s.indexOf parent < s.indexOf id := h.shape.index_lt_of_way hs (by simp)
  obtain ⟨w, hw, path, same⟩ :=
    h.linked.link_reaches id (h.shape.way_stack (mem_way_of_work hs))
  constructor
  · rw [← same]
    exact h.lower (h.shape.stack_met (h.shape.way_stack parent_way)) hw
      ((h.reaches_last hs parent_way).trans path)
  · rw [linkOf_lower, if_neg]
    rintro rfl
    exact lt_irrefl _ parent_lt

/-- The node before a node on the way is the last one below it. -/
theorem Sound.index_le_parent (h : Sound next all s) {parent : String} {targets : List String}
    (hs : s.work = (id, []) :: (parent, targets) :: rest) {p : String}
    (hp : p ∈ parent :: rest.map Prod.fst) : s.indexOf p ≤ s.indexOf parent := by
  have sorted := h.shape.way_sorted
  rw [way_of_work hs, List.map_cons, List.pairwise_cons, List.pairwise_cons] at sorted
  rcases List.mem_cons.1 hp with rfl | hp
  · exact le_rfl
  · exact (sorted.2.1 p hp).le

/-- When a node is left, the node before it on the way takes over its link. Then a component is
closed, or the node stays on the stack. -/
theorem Sound.leave (h : Sound next all s) (hs : s.work = (id, []) :: rest) :
    Sound next all (ComponentSearch.leave id { s with work := rest }) := by
  have le := h.shape.link_le id (h.shape.stack_met (h.shape.way_stack (mem_way_of_work hs)))
  cases rest with
  | nil =>
    have own := h.own_of_first hs
    have closed := h.close hs own
    rw [ComponentSearch.leave, if_pos]
    · exact closed
    · exact own
  | cons entry rest =>
    obtain ⟨parent, targets⟩ := entry
    obtain ⟨taken, link_id⟩ := h.handOver hs
    by_cases own : s.linkOf id = s.indexOf id
    · have closed := taken.close hs (link_id.trans own)
      rw [ComponentSearch.leave, if_pos]
      · exact closed
      · exact link_id.trans own
    · have low : s.linkOf id < s.indexOf id := lt_of_le_of_ne le own
      have below : parent ∈ ((parent, targets) :: rest).map Prod.fst := by simp
      rw [ComponentSearch.leave, if_neg]
      · refine ⟨taken.shape.leave hs, ?_, taken.waits.leave hs⟩
        refine taken.linked.leave taken.shape hs ?_ below (fun p hp => h.index_le_parent hs hp) ?_
        · rw [link_id]
          exact low
        · rw [link_id, linkOf_lower, if_pos rfl]
          exact Nat.min_le_right _ _
      · exact fun closes => own (link_id.symm.trans closes)

end Leave

/-- What one step does. -/
inductive Move (next : String → List String) (s : ComponentSearch) : ComponentSearch → Prop where
  /-- The search is over. -/
  | idle (hw : s.work = []) (hr : s.roots = []) : Move next s s
  /-- A root was met before. -/
  | skip {root : String} {roots : List String} (hw : s.work = []) (hr : s.roots = root :: roots)
      (old : root ∈ s.met) : Move next s { s with roots := roots }
  /-- A root is entered. -/
  | start {root : String} {roots : List String} (hw : s.work = []) (hr : s.roots = root :: roots)
      (fresh : root ∉ s.met) : Move next s (enter next root { s with roots := roots })
  /-- A successor is entered. -/
  | descend {id t : String} {ts : List String} {rest : List (String × List String)}
      (hw : s.work = (id, t :: ts) :: rest) (fresh : t ∉ s.met) :
      Move next s (enter next t { s with work := (id, ts) :: rest })
  /-- A successor is on the stack. -/
  | look {id t : String} {ts : List String} {rest : List (String × List String)}
      (hw : s.work = (id, t :: ts) :: rest) (old : t ∈ s.met) (on : t ∈ s.onStack) :
      Move next s (lower id (s.indexOf t) { s with work := (id, ts) :: rest })
  /-- A successor is in a component. -/
  | pass {id t : String} {ts : List String} {rest : List (String × List String)}
      (hw : s.work = (id, t :: ts) :: rest) (old : t ∈ s.met) (off : t ∉ s.onStack) :
      Move next s { s with work := (id, ts) :: rest }
  /-- A node is left. -/
  | leave {id : String} {rest : List (String × List String)} (hw : s.work = (id, []) :: rest) :
      Move next s (ComponentSearch.leave id { s with work := rest })

theorem contains_index_iff {v : String} : s.index.contains v = true ↔ v ∈ s.met :=
  Table.contains_iff

theorem contains_index_eq_false_iff {v : String} : s.index.contains v = false ↔ v ∉ s.met :=
  Table.contains_eq_false_iff

/-- Every step is one of the moves. -/
theorem move_step (next : String → List String) (s : ComponentSearch) :
    Move next s (step next s) := by
  rcases hw : s.work with _ | ⟨⟨id, _ | ⟨t, ts⟩⟩, rest⟩
  · rcases hr : s.roots with _ | ⟨root, roots⟩
    · have idle : step next s = s := by simp [step, hw, hr]
      rw [idle]
      exact .idle hw hr
    · by_cases old : root ∈ s.met
      · have skip : step next s = { s with roots := roots } := by
          simp [step, hw, hr, contains_index_iff.2 old]
        rw [skip]
        exact .skip hw hr old
      · have start : step next s = enter next root { s with roots := roots } := by
          simp [step, hw, hr, contains_index_eq_false_iff.2 old]
        rw [start]
        exact .start hw hr old
  · have leaves : step next s = leave id { s with work := rest } := by simp [step, hw]
    rw [leaves]
    exact .leave hw
  · by_cases old : t ∈ s.met
    · by_cases on : t ∈ s.onStack
      · have look : step next s = lower id (s.indexOf t) { s with work := (id, ts) :: rest } := by
          simp [step, hw, contains_index_iff.2 old, on, indexOf]
        rw [look]
        exact .look hw old on
      · have pass : step next s = { s with work := (id, ts) :: rest } := by
          simp [step, hw, contains_index_iff.2 old, on]
        rw [pass]
        exact .pass hw old on
    · have descend : step next s = enter next t { s with work := (id, ts) :: rest } := by
        simp [step, hw, contains_index_eq_false_iff.2 old]
      rw [descend]
      exact .descend hw old

theorem Sound.move (h : Sound next all s) (within : ∀ u, ∀ v ∈ next u, v ∈ all)
    {t : ComponentSearch} (m : Move next s t) : Sound next all t := by
  cases m with
  | idle => exact h
  | skip _ hr old => exact h.skip_root hr old
  | start hw hr fresh => exact h.enter_root hw hr fresh
  | descend hw fresh => exact h.enter_next within hw fresh
  | look hw _ on => exact h.look hw ((h.shape.onStack_iff _).1 on)
  | pass hw old off =>
    exact h.pass hw old fun stack_t => absurd ((h.shape.onStack_iff _).2 stack_t) off
  | leave hw => exact h.leave hw

theorem Sound.step (h : Sound next all s) (within : ∀ u, ∀ v ∈ next u, v ∈ all) :
    Sound next all (ComponentSearch.step next s) := h.move within (move_step next s)

theorem Sound.run (h : Sound next all s) (within : ∀ u, ∀ v ∈ next u, v ∈ all) (n : Nat) :
    Sound next all (ComponentSearch.run next n s) := by
  induction n generalizing s with
  | zero => exact h
  | succ n ih => exact ih (h.step within)

/-- Before the first step nothing is met. -/
theorem sound_start (next : String → List String) (all : List String) :
    Sound next all { roots := all } where
  shape := {
    met_within := by simp [met]
    roots_within := by simp
    all_listed := fun v hv => .inr hv
    link_keys := rfl
    index_lt := by simp [met]
    link_le := by simp [met]
    met_iff := by simp [met, closed]
    nodup := by simp [closed]
    onStack_iff := by simp
    stack_sorted := by simp
    way_sublist := by simp [way]
    work_suffix := by simp }
  linked := {
    link_reaches := by simp
    link_covers := by simp
    way_reaches := by simp
    way_below := by simp
    left_below := by simp
    closed_next := by simp [closed]
    component_iff := by simp
    component_ne_nil := by simp }
  waits := by simp [Waits, met]

/-! ## The end of the search -/

/-- Nothing is left to do. -/
def Finished (s : ComponentSearch) : Prop := s.work = [] ∧ s.roots = []

/-- The number of steps that are left: one for each root, and the steps of all nodes that were not
met and of the nodes on the way. -/
def remaining (next : String → List String) (all : List String) (s : ComponentSearch) : Nat :=
  s.roots.length + costWithout next all s.met + (s.work.map fun w => 1 + w.2.length).sum

theorem handOver_eq (s : ComponentSearch) (id : String) :
    (s.handOver id).done = s.done ∧ (s.handOver id).stack = s.stack := by
  rw [handOver]
  split <;> exact ⟨rfl, rfl⟩

theorem leave_eq (s : ComponentSearch) (id : String) :
    (s.leave id).roots = s.roots ∧ (s.leave id).met = s.met ∧ (s.leave id).work = s.work := by
  rw [leave, handOver]
  split <;> split <;> exact ⟨rfl, rfl, rfl⟩

/-- Entering a node moves its steps from the nodes not met to the nodes on the way. -/
theorem remaining_enter (distinct : all.Nodup) {id : String} (hid : id ∈ all) (fresh : id ∉ s.met) :
    remaining next all (s.enter next id) = remaining next all s := by
  have grown : ∀ v, v ∈ s.met ++ [id] ↔ v ∈ s.met ∨ v = id := by simp
  have costs : costWithout next all s.met = cost next id + costWithout next all (s.met ++ [id]) :=
    costWithout_eq_add distinct hid fresh grown
  have work_eq : (s.enter next id).work = (id, next id) :: s.work := rfl
  have roots_eq : (s.enter next id).roots = s.roots := rfl
  rw [remaining, remaining, met_enter s fresh, work_eq, roots_eq, costs, cost, List.map_cons,
    List.sum_cons]
  dsimp only
  omega

/-- Every step but the last ones brings the end one step nearer. -/
theorem Sound.remaining_move (h : Sound next all s) (distinct : all.Nodup)
    (within : ∀ u, ∀ v ∈ next u, v ∈ all) {t : ComponentSearch} (m : Move next s t) :
    s.Finished ∨ remaining next all t + 1 = remaining next all s := by
  have fewer_roots {root : String} {roots : List String} (hr : s.roots = root :: roots) :
      remaining next all { s with roots := roots } + 1 = remaining next all s := by
    have met_eq : met { s with roots := roots } = s.met := rfl
    rw [remaining, remaining, met_eq, hr, List.length_cons]
    dsimp only
    omega
  have fewer_edges {id t : String} {ts : List String} {rest : List (String × List String)}
      (hw : s.work = (id, t :: ts) :: rest) :
      remaining next all { s with work := (id, ts) :: rest } + 1 = remaining next all s := by
    have met_eq : met { s with work := (id, ts) :: rest } = s.met := rfl
    rw [remaining, remaining, met_eq, hw, List.map_cons, List.map_cons, List.sum_cons,
      List.sum_cons, List.length_cons]
    dsimp only
    omega
  cases m with
  | idle hw hr => exact .inl ⟨hw, hr⟩
  | skip hw hr old => exact .inr (fewer_roots hr)
  | @start root roots hw hr fresh =>
    right
    have hid : root ∈ all := h.shape.roots_within root (by simp [hr])
    rw [remaining_enter (s := { s with roots := roots }) distinct hid fresh, fewer_roots hr]
  | @descend id t ts rest hw fresh =>
    right
    have hid : t ∈ all := within id t (h.follows_of_work hw)
    rw [remaining_enter (s := { s with work := (id, ts) :: rest }) distinct hid fresh,
      fewer_edges hw]
  | look hw old on => exact .inr (fewer_edges hw)
  | pass hw old off => exact .inr (fewer_edges hw)
  | @leave id rest hw =>
    right
    obtain ⟨roots_eq, met_eq, work_eq⟩ := leave_eq { s with work := rest } id
    have met_same : met { s with work := rest } = s.met := rfl
    rw [remaining, remaining, roots_eq, met_eq, met_same, work_eq, hw, List.map_cons,
      List.sum_cons, List.length_nil]
    dsimp only
    omega

theorem Finished.run (h : s.Finished) (n : Nat) : run next n s = s := by
  have idle : step next s = s := by simp [step, h.1, h.2]
  induction n with
  | zero => rfl
  | succ n ih => rw [ComponentSearch.run, idle, ih]

/-- A run of enough steps comes to the end. -/
theorem Sound.run_finished (h : Sound next all s) (distinct : all.Nodup)
    (within : ∀ u, ∀ v ∈ next u, v ∈ all) {n : Nat} (enough : remaining next all s ≤ n) :
    (ComponentSearch.run next n s).Finished := by
  induction n generalizing s with
  | zero =>
    have none_left : remaining next all s = 0 := Nat.le_zero.1 enough
    rcases h.remaining_move distinct within (move_step next s) with finished | fewer
    · exact finished
    · omega
  | succ n ih =>
    rcases h.remaining_move distinct within (move_step next s) with finished | fewer
    · rw [finished.run]
      exact finished
    · exact ih (h.step within) (by omega)

/-- In the end nothing is open: every node is in a component. -/
theorem Sound.stack_eq_nil (h : Sound next all s) (finished : s.Finished) : s.stack = [] := by
  refine List.eq_nil_iff_forall_not_mem.2 fun v hv => ?_
  obtain ⟨p, hp, -⟩ := h.linked.way_below v hv
  rw [way, finished.1] at hp
  cases hp

theorem Sound.mem_closed_iff (h : Sound next all s) (finished : s.Finished) {v : String} :
    v ∈ s.closed ↔ v ∈ all := by
  have met_closed : v ∈ s.met ↔ v ∈ s.closed := by
    rw [h.shape.met_iff, h.stack_eq_nil finished]
    simp
  rw [← met_closed]
  refine ⟨h.shape.met_within v, fun hv => (h.shape.all_listed v hv).resolve_right ?_⟩
  rw [finished.2]
  exact List.not_mem_nil

end ComponentSearch

/-! ## The components of a selection -/

/-- Some lists of ids are all the components of the ids of a list. -/
structure AreComponents (next : String → List String) (all : List String)
    (cs : List (List String)) : Prop where
  nodup : cs.flatten.Nodup
  mem_flatten : ∀ v, v ∈ cs.flatten ↔ v ∈ all
  mem_iff : ∀ c ∈ cs, ∀ u ∈ c, ∀ v, v ∈ c ↔ Reaches next u v ∧ Reaches next v u
  ne_nil : ∀ c ∈ cs, c ≠ []

/-- A search takes one step for each root, one for each node, and one for each edge. -/
theorem ComponentSearch.finished_run {next : String → List String} {all : List String}
    (distinct : all.Nodup) (within : ∀ u, ∀ v ∈ next u, v ∈ all) {n : Nat}
    (enough : 2 * all.length + (all.map fun v => (next v).length).sum ≤ n) :
    (ComponentSearch.run next n { roots := all }).Finished := by
  have left_eq : remaining next all { roots := all } =
      2 * all.length + (all.map fun v => (next v).length).sum := by
    have none_met : costWithout next all [] = (all.map (cost next)).sum := by simp [costWithout]
    have met_eq : met { roots := all } = [] := rfl
    rw [remaining, met_eq, none_met, sum_cost, List.map_nil, List.sum_nil]
    dsimp only
    omega
  exact (sound_start next all).run_finished distinct within (left_eq.trans_le enough)

/-- A search of enough steps finds all components. -/
theorem ComponentSearch.areComponents_run {next : String → List String} {all : List String}
    (distinct : all.Nodup) (within : ∀ u, ∀ v ∈ next u, v ∈ all) {n : Nat}
    (enough : 2 * all.length + (all.map fun v => (next v).length).sum ≤ n) :
    AreComponents next all (ComponentSearch.run next n { roots := all }).done := by
  have sound := (sound_start next all).run within n
  have finished := finished_run distinct within enough
  exact {
    nodup := (List.nodup_append.1 sound.shape.nodup).1
    mem_flatten := fun v => sound.mem_closed_iff finished
    mem_iff := sound.linked.component_iff
    ne_nil := sound.linked.component_ne_nil }

namespace Store

variable {g : Store}

theorem areComponents_allComponents (g : Store) (s : Selection) :
    AreComponents (g.selectedSuccessors s) (g.selected s) (g.allComponents s) := by
  refine ComponentSearch.areComponents_run (nodup_selected g s)
    (fun _ _ => mem_selected_of_mem_selectedSuccessors) ?_
  rw [selectedEdgeCount, foldl_length, Nat.zero_add]

/-- A component holds a cycle when its members are on one. -/
theorem holdsCycle_iff {s : Selection} {c : List String} (hc : c ∈ g.allComponents s) {u : String}
    (hu : u ∈ c) : g.holdsCycle s c = true ↔ OnCycle (g.selectedSuccessors s) u := by
  have all := areComponents_allComponents g s
  have both := all.mem_iff c hc
  have distinct : c.Nodup := (List.nodup_flatten.1 all.nodup).1 c hc
  rcases c with _ | ⟨a, _ | ⟨b, rest⟩⟩
  · cases hu
  · -- a lone member is on a cycle only by an edge to itself
    obtain rfl : u = a := List.mem_singleton.1 hu
    rw [holdsCycle, List.contains_iff_mem]
    refine ⟨fun loop => .single loop, fun cycle => ?_⟩
    obtain ⟨v, edge, back⟩ := Relation.TransGen.head'_iff.1 cycle
    have member : v ∈ [u] := (both u (by simp) v).2 ⟨.single edge, back⟩
    rwa [List.mem_singleton.1 member] at edge
  · -- of two members the first is on a cycle through the second
    refine ⟨fun _ => ?_, fun _ => rfl⟩
    obtain ⟨there, back⟩ := (both a (by simp) b).1 (by simp)
    have apart : b ≠ a := fun same => by simp [same] at distinct
    have cycle : OnCycle (g.selectedSuccessors s) a := by
      rcases Relation.reflTransGen_iff_eq_or_transGen.1 there with same | path
      · exact absurd same apart
      · exact path.trans_left back
    obtain ⟨onward, again⟩ := (both a (by simp) u).1 hu
    exact cycle.of_mutual onward again

theorem mem_components_iff {s : Selection} {c : List String} :
    c ∈ g.components s ↔ c ∈ g.allComponents s ∧ g.holdsCycle s c = true := List.mem_filter

/-- A node of a selection is in a component that holds a cycle when it is on one. -/
theorem exists_component_iff {s : Selection} {u : String} (hu : u ∈ g.selected s) :
    (∃ c ∈ g.components s, u ∈ c) ↔ OnCycle (g.selectedSuccessors s) u := by
  constructor
  · rintro ⟨c, hc, member⟩
    obtain ⟨listed, holds⟩ := mem_components_iff.1 hc
    exact (holdsCycle_iff listed member).1 holds
  · intro cycle
    have all := areComponents_allComponents g s
    obtain ⟨c, listed, member⟩ := List.mem_flatten.1 ((all.mem_flatten u).2 hu)
    exact ⟨c, mem_components_iff.2 ⟨listed, (holdsCycle_iff listed member).2 cycle⟩, member⟩

theorem mem_selected_of_mem_component {s : Selection} {c : List String} (hc : c ∈ g.components s)
    {u : String} (hu : u ∈ c) : u ∈ g.selected s := by
  have listed := (mem_components_iff.1 hc).1
  exact ((areComponents_allComponents g s).mem_flatten u).1 (List.mem_flatten.2 ⟨c, listed, hu⟩)

/-- Two nodes of a selection are in one component when each reaches the other. -/
theorem exists_shared_component_iff {s : Selection} {u v : String} (hu : u ∈ g.selected s)
    (apart : u ≠ v) :
    (∃ c ∈ g.components s, u ∈ c ∧ v ∈ c) ↔
      Reaches (g.selectedSuccessors s) u v ∧ Reaches (g.selectedSuccessors s) v u := by
  have all := areComponents_allComponents g s
  constructor
  · rintro ⟨c, hc, hu, hv⟩
    exact (all.mem_iff c (mem_components_iff.1 hc).1 u hu v).1 hv
  · rintro ⟨there, back⟩
    have cycle : OnCycle (g.selectedSuccessors s) u := by
      rcases Relation.reflTransGen_iff_eq_or_transGen.1 there with same | path
      · exact absurd same.symm apart
      · exact path.trans_left back
    obtain ⟨c, hc, member⟩ := (exists_component_iff hu).2 cycle
    exact ⟨c, hc, member, (all.mem_iff c (mem_components_iff.1 hc).1 u member v).2 ⟨there, back⟩⟩

/-- One cycle is shown for each component. -/
theorem hasCycle_iff_components {s : Selection} :
    g.hasCycle s = true ↔ g.components s ≠ [] := by
  rw [hasCycle, cycles]
  cases g.components s <;> simp

/-- A selection holds a cycle when some node of it is on one. -/
theorem hasCycle_iff {s : Selection} :
    g.hasCycle s = true ↔ ∃ u ∈ g.selected s, OnCycle (g.selectedSuccessors s) u := by
  have all := areComponents_allComponents g s
  rw [hasCycle_iff_components]
  constructor
  · intro some_component
    obtain ⟨c, hc⟩ := List.exists_mem_of_ne_nil _ some_component
    obtain ⟨u, hu⟩ := List.exists_mem_of_ne_nil c (all.ne_nil c (mem_components_iff.1 hc).1)
    have selected := mem_selected_of_mem_component hc hu
    exact ⟨u, selected, (exists_component_iff selected).1 ⟨c, hc, hu⟩⟩
  · rintro ⟨u, hu, cycle⟩
    obtain ⟨c, hc, -⟩ := (exists_component_iff hu).2 cycle
    exact List.ne_nil_of_mem hc

/-- The components of a selection are lists of its nodes that share no member. Two nodes are in one
component exactly when each reaches the other along edges of the selection, and a node is in a
component exactly when it is on a cycle of such edges. -/
theorem components_exact (h : g.Reachable) (s : Selection) :
    (∀ c ∈ g.components s, c.Nodup ∧ ∀ v ∈ c, v ∈ g.selected s) ∧
    (g.components s).Pairwise List.Disjoint ∧
    (∀ u ∈ g.selected s, ∀ v ∈ g.selected s, u ≠ v →
      ((∃ c ∈ g.components s, u ∈ c ∧ v ∈ c) ↔
        Relation.ReflTransGen (g.Joins s) u v ∧ Relation.ReflTransGen (g.Joins s) v u)) ∧
    (∀ u ∈ g.selected s,
      (∃ c ∈ g.components s, u ∈ c) ↔ Relation.TransGen (g.Joins s) u u) := by
  have all := areComponents_allComponents g s
  obtain ⟨distinct, disjoint⟩ := List.nodup_flatten.1 all.nodup
  refine ⟨fun c hc => ?_, disjoint.sublist List.filter_sublist, fun u hu v hv apart => ?_,
    fun u hu => ?_⟩
  · have listed := (mem_components_iff.1 hc).1
    exact ⟨distinct c listed,
      fun v hv => (all.mem_flatten v).1 (List.mem_flatten.2 ⟨c, listed, hv⟩)⟩
  · rw [exists_shared_component_iff hu apart, h.reaches_iff hu, h.reaches_iff hv]
  · rw [exists_component_iff hu, h.onCycle_iff hu]

/-- Two functions call each other, and one of them calls a third. -/
def callPair : Store :=
  (empty.applyAll [.addNode ⟨"f", NodeType.function, "f", []⟩,
    .addNode ⟨"g", NodeType.function, "g", []⟩, .addNode ⟨"h", NodeType.function, "h", []⟩,
    .addEdge ⟨"f", "g", EdgeType.calls, []⟩, .addEdge ⟨"g", "f", EdgeType.calls, []⟩,
    .addEdge ⟨"g", "h", EdgeType.calls, []⟩]).1

/-- The two functions are on one cycle, and the third is on none. -/
theorem components_exact_callPair :
    callPair.Reachable ∧
    (Relation.ReflTransGen (callPair.Joins .callGraph) "f" "g" ∧
      Relation.ReflTransGen (callPair.Joins .callGraph) "g" "f") ∧
    ¬ Relation.TransGen (callPair.Joins .callGraph) "h" "h" := by
  have reachable : callPair.Reachable := ⟨_, rfl⟩
  have found : callPair.components .callGraph = [["f", "g"]] := by decide
  obtain ⟨-, -, shared, cyclic⟩ := components_exact reachable .callGraph
  refine ⟨reachable, (shared "f" (by decide) "g" (by decide) (by decide)).1 ?_, ?_⟩
  · rw [found]
    exact ⟨["f", "g"], by decide, by decide, by decide⟩
  · rw [← cyclic "h" (by decide), found]
    decide

end Store

end CodeGraph

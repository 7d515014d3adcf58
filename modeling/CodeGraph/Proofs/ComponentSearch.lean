import CodeGraph.Graph.Components
import CodeGraph.Proofs.Reach
import Mathlib.Algebra.Order.Group.Nat
import Mathlib.Data.List.Nodup

/-!
# What a search for components keeps

A step of the search is made of a few moves: look at an edge, lower a link, enter a node, leave a
node, close a component. Each move keeps the tables of the search in shape, and keeps what the links
and the components say about paths.

Main definitions:

- `ComponentSearch.Shape`: how the tables fit together;
- `ComponentSearch.Linked`: what links and components say about paths;
- `ComponentSearch.Waits`: successors that were not met are still to be looked at.
-/
namespace CodeGraph.ComponentSearch

variable {next : String → List String} {all : List String} {s : ComponentSearch}

/-- The nodes met. -/
def met (s : ComponentSearch) : List String := s.index.keys

/-- The nodes entered and not left, the latest first. -/
def way (s : ComponentSearch) : List String := s.work.map Prod.fst

/-- The nodes of components that are complete. -/
def closed (s : ComponentSearch) : List String := s.done.flatten

/-- An edge between nodes that were met was looked at. -/
def Examined (next : String → List String) (s : ComponentSearch) (u v : String) : Prop :=
  u ∈ s.met ∧ v ∈ s.met ∧ v ∈ next u ∧ ∀ rest, (u, rest) ∈ s.work → v ∉ rest

/-- How the tables of a search over some nodes fit together. -/
structure Shape (next : String → List String) (all : List String) (s : ComponentSearch) : Prop where
  met_within : ∀ v ∈ s.met, v ∈ all
  roots_within : ∀ v ∈ s.roots, v ∈ all
  all_listed : ∀ v ∈ all, v ∈ s.met ∨ v ∈ s.roots
  link_keys : s.link.keys = s.index.keys
  index_lt : ∀ v ∈ s.met, s.indexOf v < s.counter
  link_le : ∀ v ∈ s.met, s.linkOf v ≤ s.indexOf v
  met_iff : ∀ v, v ∈ s.met ↔ v ∈ s.closed ∨ v ∈ s.stack
  /-- Every node stands once, on the stack or in a component. -/
  nodup : (s.closed ++ s.stack).Nodup
  onStack_iff : ∀ v, v ∈ s.onStack ↔ v ∈ s.stack
  stack_sorted : s.stack.Pairwise fun u v => s.indexOf v < s.indexOf u
  way_sublist : s.way.Sublist s.stack
  work_suffix : ∀ u rest, (u, rest) ∈ s.work → rest <:+ next u

/-- What the links and the components of a search say about paths. -/
structure Linked (next : String → List String) (s : ComponentSearch) : Prop where
  /-- A link is the number of a node on the stack that the node reaches. -/
  link_reaches : ∀ v ∈ s.stack, ∃ w ∈ s.stack, Reaches next v w ∧ s.indexOf w = s.linkOf v
  /-- An edge from above a node on the way is known at that node or further on. -/
  link_covers : ∀ p ∈ s.way, ∀ u ∈ s.stack, s.indexOf p ≤ s.indexOf u →
    ∀ v ∈ s.stack, Examined next s u v →
      ∃ q ∈ s.way, s.indexOf p ≤ s.indexOf q ∧ s.linkOf q ≤ s.indexOf v
  /-- A node on the way reaches everything above it. -/
  way_reaches : ∀ p ∈ s.way, ∀ u ∈ s.stack, s.indexOf p ≤ s.indexOf u → Reaches next p u
  /-- Everything on the stack is above a node on the way. -/
  way_below : ∀ u ∈ s.stack, ∃ p ∈ s.way, s.indexOf p ≤ s.indexOf u
  /-- A node that was left and stays on the stack has a link below its own number. -/
  left_below : ∀ u ∈ s.stack, u ∉ s.way → s.linkOf u < s.indexOf u
  closed_next : ∀ u ∈ s.closed, ∀ v ∈ next u, v ∈ s.closed
  /-- A component holds exactly the nodes that a member reaches and that reach it. -/
  component_iff : ∀ c ∈ s.done, ∀ u ∈ c, ∀ v, v ∈ c ↔ Reaches next u v ∧ Reaches next v u
  component_ne_nil : ∀ c ∈ s.done, c ≠ []

/-- Successors that were not met are still to be looked at. -/
def Waits (next : String → List String) (s : ComponentSearch) : Prop :=
  ∀ u ∈ s.met, ∀ v ∈ next u, v ∉ s.met → ∃ rest, (u, rest) ∈ s.work ∧ v ∈ rest

section Way

variable {id : String} {targets : List String} {rest : List (String × List String)}

theorem way_of_work (hs : s.work = (id, targets) :: rest) : s.way = id :: rest.map Prod.fst := by
  rw [way, hs, List.map_cons]

theorem mem_way_of_work (hs : s.work = (id, targets) :: rest) : id ∈ s.way := by
  rw [way_of_work hs]
  exact List.mem_cons_self

theorem mem_way_of_rest (hs : s.work = (id, targets) :: rest) {p : String}
    (hp : p ∈ rest.map Prod.fst) : p ∈ s.way := by
  rw [way_of_work hs]
  exact List.mem_cons_of_mem id hp

end Way

namespace Shape

theorem stack_met (h : Shape next all s) {v : String} (hv : v ∈ s.stack) : v ∈ s.met :=
  (h.met_iff v).2 (.inr hv)

theorem way_stack (h : Shape next all s) {v : String} (hv : v ∈ s.way) : v ∈ s.stack :=
  h.way_sublist.subset hv

theorem way_sorted (h : Shape next all s) : s.way.Pairwise fun u v => s.indexOf v < s.indexOf u :=
  h.stack_sorted.sublist h.way_sublist

theorem stack_nodup (h : Shape next all s) : s.stack.Nodup :=
  (List.nodup_append.1 h.nodup).2.1

theorem not_closed (h : Shape next all s) {v : String} (hv : v ∈ s.stack) : v ∉ s.closed :=
  fun hc => (List.nodup_append.1 h.nodup).2.2 v hc v hv rfl

/-- Everything further down the way has a smaller number. -/
theorem index_lt_of_way (h : Shape next all s) {id : String} {targets : List String}
    {rest : List (String × List String)} (hs : s.work = (id, targets) :: rest) {p : String}
    (hp : p ∈ rest.map Prod.fst) : s.indexOf p < s.indexOf id := by
  have sorted := h.way_sorted
  rw [way_of_work hs, List.pairwise_cons] at sorted
  exact sorted.1 p hp

end Shape

/-! ## Looking at an edge -/

theorem examined_of_advance {id t u v : String} {ts : List String}
    {rest : List (String × List String)} (hs : s.work = (id, t :: ts) :: rest)
    (h : Examined next { s with work := (id, ts) :: rest } u v) :
    Examined next s u v ∨ u = id ∧ v = t := by
  obtain ⟨hu, hv, edge, waiting⟩ := h
  by_cases here : u = id ∧ v = t
  · exact .inr here
  · refine .inl ⟨hu, hv, edge, fun r hr => ?_⟩
    rw [hs] at hr
    rcases List.mem_cons.1 hr with first | later
    · obtain ⟨rfl, rfl⟩ := Prod.mk.inj first
      have apart := waiting ts (by simp)
      rintro (_ | later)
      · exact here ⟨rfl, rfl⟩
      · exact apart ‹_›
    · exact waiting r (by simp [later])

theorem Shape.advance (h : Shape next all s) {id t : String} {ts : List String}
    {rest : List (String × List String)} (hs : s.work = (id, t :: ts) :: rest) :
    Shape next all { s with work := (id, ts) :: rest } :=
  { h with
    way_sublist := by
      have sub := h.way_sublist
      rw [way, hs] at sub
      exact sub
    work_suffix := by
      intro u r hr
      rcases List.mem_cons.1 hr with first | later
      · obtain ⟨rfl, rfl⟩ := Prod.mk.inj first
        exact (List.suffix_cons t r).trans (h.work_suffix u (t :: r) (by simp [hs]))
      · exact h.work_suffix u r (by simp [hs, later]) }

/-- An edge may be put aside when the link of its source already tells of its target. -/
theorem Linked.advance (h : Linked next s) {id t : String} {ts : List String}
    {rest : List (String × List String)} (hs : s.work = (id, t :: ts) :: rest)
    (known : t ∈ s.stack → s.linkOf id ≤ s.indexOf t) :
    Linked next { s with work := (id, ts) :: rest } := by
  have way_eq : way { s with work := (id, ts) :: rest } = s.way := by simp [way, hs]
  refine { h with
    link_covers := ?_
    way_reaches := ?_
    way_below := ?_
    left_below := ?_ }
  · intro p hp u hu above v hv edge
    rw [way_eq] at hp ⊢
    rcases examined_of_advance hs edge with old | ⟨rfl, rfl⟩
    · exact h.link_covers p hp u hu above v hv old
    · exact ⟨u, mem_way_of_work hs, above, known hv⟩
  · rw [way_eq]
    exact h.way_reaches
  · rw [way_eq]
    exact h.way_below
  · rw [way_eq]
    exact h.left_below

/-! ## Lowering a link -/

theorem linkOf_lower (s : ComponentSearch) (id v : String) (n : Nat) :
    (s.lower id n).linkOf v = if v = id then min (s.linkOf id) n else s.linkOf v := by
  rw [linkOf, lower, Table.get?_insert]
  split <;> rfl

theorem linkOf_lower_le (s : ComponentSearch) (id v : String) (n : Nat) :
    (s.lower id n).linkOf v ≤ s.linkOf v := by
  rw [linkOf_lower]
  split
  · next hv => rw [hv]; exact Nat.min_le_left _ _
  · exact le_rfl

theorem Shape.lower (h : Shape next all s) {id : String} (hid : id ∈ s.met) (n : Nat) :
    Shape next all (s.lower id n) :=
  { h with
    link_keys := by
      rw [ComponentSearch.lower, Table.keys_insert, if_pos]
      · exact h.link_keys
      · rw [h.link_keys]
        exact hid
    link_le := fun v hv => (linkOf_lower_le s id v n).trans (h.link_le v hv) }

/-- A link may be lowered to the number of a node on the stack that the node reaches. -/
theorem Linked.lower (h : Linked next s) {id w : String} (hw : w ∈ s.stack)
    (path : Reaches next id w) : Linked next (s.lower id (s.indexOf w)) := by
  refine { h with
    link_reaches := ?_
    link_covers := ?_
    left_below := ?_ }
  · intro v hv
    obtain ⟨x, hx, reach, same⟩ := h.link_reaches v hv
    rw [linkOf_lower]
    split
    · next hid =>
      subst hid
      rcases Nat.le_total (s.linkOf v) (s.indexOf w) with low | high
      · exact ⟨x, hx, reach, by rw [Nat.min_eq_left low]; exact same⟩
      · exact ⟨w, hw, path, by rw [Nat.min_eq_right high]; rfl⟩
    · exact ⟨x, hx, reach, same⟩
  · intro p hp u hu above v hv edge
    obtain ⟨q, hq, order, low⟩ := h.link_covers p hp u hu above v hv edge
    exact ⟨q, hq, order, (linkOf_lower_le s id q _).trans low⟩
  · intro u hu left
    exact (linkOf_lower_le s id u _).trans_lt (h.left_below u hu left)

/-! ## Entering a node -/

theorem indexOf_enter (s : ComponentSearch) (id v : String) :
    (s.enter next id).indexOf v = if v = id then s.counter else s.indexOf v := by
  rw [indexOf, enter, Table.get?_insert]
  split <;> rfl

theorem linkOf_enter (s : ComponentSearch) (id v : String) :
    (s.enter next id).linkOf v = if v = id then s.counter else s.linkOf v := by
  rw [linkOf, enter, Table.get?_insert]
  split <;> rfl

theorem indexOf_enter_of_met {id v : String} (fresh : id ∉ s.met) (hv : v ∈ s.met) :
    (s.enter next id).indexOf v = s.indexOf v := by
  rw [indexOf_enter, if_neg]
  exact fun same => fresh (same ▸ hv)

theorem linkOf_enter_of_met {id v : String} (fresh : id ∉ s.met) (hv : v ∈ s.met) :
    (s.enter next id).linkOf v = s.linkOf v := by
  rw [linkOf_enter, if_neg]
  exact fun same => fresh (same ▸ hv)

theorem met_enter (s : ComponentSearch) {id : String} (fresh : id ∉ s.met) :
    (s.enter next id).met = s.met ++ [id] := by
  exact (Table.keys_insert ..).trans (if_neg fresh)

theorem examined_of_enter {id u v : String} (fresh : id ∉ s.met)
    (h : Examined next (s.enter next id) u v) :
    u ∈ s.met ∧ (Examined next s u v ∨ v = id) := by
  obtain ⟨hu, hv, edge, waiting⟩ := h
  rw [met_enter s fresh, List.mem_append, List.mem_singleton] at hu hv
  have old : u ∈ s.met := by
    refine hu.resolve_right fun same => ?_
    subst same
    exact waiting (next u) (by simp [enter]) edge
  refine ⟨old, hv.imp_left fun hv => ⟨old, hv, edge, fun r hr => ?_⟩⟩
  exact waiting r (by simp [enter, hr])

theorem Shape.enter (h : Shape next all s) {id : String} (fresh : id ∉ s.met) (hid : id ∈ all) :
    Shape next all (s.enter next id) := by
  have met_eq : (s.enter next id).met = s.met ++ [id] := met_enter s fresh
  have index_old : ∀ v ∈ s.met, (s.enter next id).indexOf v = s.indexOf v := fun v hv =>
    indexOf_enter_of_met fresh hv
  have off_stack : id ∉ s.stack := fun hs => fresh (h.stack_met hs)
  have not_closed : id ∉ s.closed := fun hc => fresh ((h.met_iff id).2 (.inl hc))
  refine { h with
    met_within := ?_
    all_listed := ?_
    link_keys := ?_
    index_lt := ?_
    link_le := ?_
    met_iff := ?_
    nodup := ?_
    onStack_iff := ?_
    stack_sorted := ?_
    way_sublist := h.way_sublist.cons_cons id
    work_suffix := ?_ }
  · intro v hv
    rw [met_eq, List.mem_append, List.mem_singleton] at hv
    rcases hv with old | rfl
    · exact h.met_within v old
    · exact hid
  · intro v hv
    rw [met_eq, List.mem_append]
    exact (h.all_listed v hv).imp_left .inl
  · have off_link : id ∉ s.link.keys := by rw [h.link_keys]; exact fresh
    have link_eq : (s.enter next id).link.keys = s.link.keys ++ [id] :=
      (Table.keys_insert ..).trans (if_neg off_link)
    exact link_eq.trans (by rw [h.link_keys]; exact met_eq.symm)
  · intro v hv
    rw [met_eq, List.mem_append, List.mem_singleton] at hv
    show _ < s.counter + 1
    rcases hv with old | rfl
    · rw [index_old v old]
      exact (h.index_lt v old).trans (Nat.lt_succ_self _)
    · rw [indexOf_enter, if_pos rfl]
      exact Nat.lt_succ_self _
  · intro v hv
    rw [met_eq, List.mem_append, List.mem_singleton] at hv
    rcases hv with old | rfl
    · rw [index_old v old, linkOf_enter_of_met fresh old]
      exact h.link_le v old
    · rw [indexOf_enter, linkOf_enter, if_pos rfl, if_pos rfl]
  · intro v
    rw [met_eq, List.mem_append, List.mem_singleton, h.met_iff]
    show _ ↔ v ∈ s.closed ∨ v ∈ id :: s.stack
    rw [List.mem_cons]
    tauto
  · show (s.closed ++ id :: s.stack).Nodup
    rw [List.nodup_middle, List.nodup_cons]
    exact ⟨by simp [off_stack, not_closed], h.nodup⟩
  · intro v
    show v ∈ id :: s.onStack ↔ v ∈ id :: s.stack
    rw [List.mem_cons, List.mem_cons, h.onStack_iff]
  · refine List.pairwise_cons.2 ⟨fun v hv => ?_, h.stack_sorted.imp_of_mem fun hu hv lt => ?_⟩
    · rw [index_old v (h.stack_met hv), indexOf_enter, if_pos rfl]
      exact h.index_lt v (h.stack_met hv)
    · rwa [index_old _ (h.stack_met hu), index_old _ (h.stack_met hv)]
  · intro u r hr
    rcases List.mem_cons.1 hr with first | later
    · obtain ⟨rfl, rfl⟩ := Prod.mk.inj first
      exact List.suffix_rfl
    · exact h.work_suffix u r later

/-- A new node may be entered when everything on the way reaches it. -/
theorem Linked.enter (h : Linked next s) (shape : Shape next all s) {id : String}
    (fresh : id ∉ s.met) (reached : ∀ p ∈ s.way, Reaches next p id) :
    Linked next (s.enter next id) := by
  have index_new : (s.enter next id).indexOf id = s.counter := by
    rw [indexOf_enter, if_pos rfl]
  have index_old : ∀ v ∈ s.stack, (s.enter next id).indexOf v = s.indexOf v := fun v hv =>
    indexOf_enter_of_met fresh (shape.stack_met hv)
  have link_old : ∀ v ∈ s.stack, (s.enter next id).linkOf v = s.linkOf v := fun v hv =>
    linkOf_enter_of_met fresh (shape.stack_met hv)
  have below_new : ∀ v ∈ s.stack, s.indexOf v < s.counter := fun v hv =>
    shape.index_lt v (shape.stack_met hv)
  have stack_eq : (s.enter next id).stack = id :: s.stack := rfl
  have way_eq : (s.enter next id).way = id :: s.way := rfl
  refine { h with
    link_reaches := ?_
    link_covers := ?_
    way_reaches := ?_
    way_below := ?_
    left_below := ?_ }
  · intro v hv
    rw [stack_eq] at hv ⊢
    rcases List.mem_cons.1 hv with rfl | old
    · exact ⟨v, by simp, .refl, by rw [index_new, linkOf_enter, if_pos rfl]⟩
    · obtain ⟨w, hw, path, same⟩ := h.link_reaches v old
      exact ⟨w, by simp [hw], path, by rw [index_old w hw, link_old v old, same]⟩
  · -- no edge of the new node was looked at, and an edge into it cannot lower a link
    intro p hp u hu above v hv edge
    obtain ⟨met_u, edge⟩ := examined_of_enter fresh edge
    have ne_u : u ≠ id := fun same => fresh (same ▸ met_u)
    have old_u : u ∈ s.stack := (List.mem_cons.1 hu).resolve_left ne_u
    have old_p : p ∈ s.way := by
      refine (List.mem_cons.1 hp).resolve_left fun same => ?_
      have lt := below_new u old_u
      rw [same, index_new, index_old u old_u] at above
      omega
    have stack_p := shape.way_stack old_p
    rw [index_old p stack_p, index_old u old_u] at above
    rcases edge with old | rfl
    · have old_v : v ∈ s.stack :=
        (List.mem_cons.1 hv).resolve_left fun same => fresh (same ▸ old.2.1)
      obtain ⟨q, hq, order, low⟩ := h.link_covers p old_p u old_u above v old_v old
      have stack_q := shape.way_stack hq
      exact ⟨q, by simp [way_eq, hq], by rwa [index_old p stack_p, index_old q stack_q],
        by rwa [link_old q stack_q, index_old v old_v]⟩
    · refine ⟨p, by simp [way_eq, old_p], le_rfl, ?_⟩
      rw [link_old p stack_p, index_new]
      exact (shape.link_le p (shape.stack_met stack_p)).trans (below_new p stack_p).le
  · intro p hp u hu above
    rcases List.mem_cons.1 hp with rfl | old_p
    · rcases List.mem_cons.1 hu with rfl | old_u
      · exact .refl
      · have lt := below_new u old_u
        rw [index_new, index_old u old_u] at above
        omega
    · rcases List.mem_cons.1 hu with rfl | old_u
      · exact reached p old_p
      · rw [index_old p (shape.way_stack old_p), index_old u old_u] at above
        exact h.way_reaches p old_p u old_u above
  · intro u hu
    rcases List.mem_cons.1 hu with rfl | old
    · exact ⟨u, by simp [way_eq], le_rfl⟩
    · obtain ⟨p, hp, above⟩ := h.way_below u old
      exact ⟨p, by simp [way_eq, hp], by rwa [index_old p (shape.way_stack hp), index_old u old]⟩
  · intro u hu left
    rw [way_eq, List.mem_cons, not_or] at left
    have old := (List.mem_cons.1 hu).resolve_left left.1
    rw [link_old u old, index_old u old]
    exact h.left_below u old left.2

/-! ## Leaving a node -/

section Leave

variable {id : String} {rest : List (String × List String)}

/-- Nothing waits at a node that is left, so leaving it examines no new edge. -/
theorem examined_of_leave (hs : s.work = (id, []) :: rest)
    {u v : String} (edge : Examined next { s with work := rest } u v) : Examined next s u v := by
  obtain ⟨hu, hv, follows, waiting⟩ := edge
  refine ⟨hu, hv, follows, fun r hr => ?_⟩
  rw [hs] at hr
  rcases List.mem_cons.1 hr with first | later
  · rw [(Prod.mk.inj first).2]
    exact List.not_mem_nil
  · exact waiting r later

theorem Shape.leave (h : Shape next all s) (hs : s.work = (id, []) :: rest) :
    Shape next all { s with work := rest } :=
  { h with
    way_sublist := by
      have sub := h.way_sublist
      rw [way, hs] at sub
      exact (List.sublist_cons_self ..).trans sub
    work_suffix := fun u r hr => h.work_suffix u r (by simp [hs, hr]) }

/-- A node may be left on the stack when the node before it on the way has taken over its link. -/
theorem Linked.leave (h : Linked next s) (shape : Shape next all s)
    (hs : s.work = (id, []) :: rest) (low : s.linkOf id < s.indexOf id)
    {parent : String} (hp : parent ∈ rest.map Prod.fst)
    (last : ∀ p ∈ rest.map Prod.fst, s.indexOf p ≤ s.indexOf parent)
    (taken : s.linkOf parent ≤ s.linkOf id) : Linked next { s with work := rest } := by
  have way_eq := way_of_work hs
  have parent_lt : s.indexOf parent < s.indexOf id := shape.index_lt_of_way hs hp
  refine { h with
    link_covers := ?_
    way_reaches := ?_
    way_below := ?_
    left_below := ?_ }
  · -- where the link of the node itself told of the edge, that of its parent does now
    intro p hp' u hu above v hv edge
    obtain ⟨q, hq, order, known⟩ :=
      h.link_covers p (mem_way_of_rest hs hp') u hu above v hv (examined_of_leave hs edge)
    rw [way_eq, List.mem_cons] at hq
    rcases hq with rfl | hq
    · exact ⟨parent, hp, last p hp', taken.trans known⟩
    · exact ⟨q, hq, order, known⟩
  · intro p hp' u hu above
    exact h.way_reaches p (mem_way_of_rest hs hp') u hu above
  · intro u hu
    obtain ⟨p, hp', above⟩ := h.way_below u hu
    rw [way_eq, List.mem_cons] at hp'
    rcases hp' with rfl | hp'
    · exact ⟨parent, hp, parent_lt.le.trans above⟩
    · exact ⟨p, hp', above⟩
  · intro u hu left
    by_cases same : u = id
    · rw [same]
      exact low
    · refine h.left_below u hu ?_
      rw [way_eq, List.mem_cons, not_or]
      exact ⟨same, left⟩

/-- The first node on the way keeps its own number as its link, so a node with a lower link was
entered from another one. -/
theorem Linked.exists_parent (h : Linked next s) (shape : Shape next all s)
    (hs : s.work = (id, []) :: rest) (low : s.linkOf id < s.indexOf id) : rest ≠ [] := by
  have hid : id ∈ s.stack := shape.way_stack (mem_way_of_work hs)
  obtain ⟨w, hw, -, same⟩ := h.link_reaches id hid
  obtain ⟨p, hp, above⟩ := h.way_below w hw
  rintro rfl
  rw [way_of_work hs, List.map_nil, List.mem_singleton] at hp
  subst hp
  omega

end Leave

/-! ## Closing a component -/

theorem stack_split {stack : List String} {id : String} (h : id ∈ stack) :
    stack = stack.takeWhile (· ≠ id) ++ id :: (stack.dropWhile (· ≠ id)).drop 1 := by
  induction stack with
  | nil => cases h
  | cons v stack ih =>
    by_cases same : v = id
    · simp [same]
    · have later : id ∈ stack := (List.mem_cons.1 h).resolve_left fun e => same e.symm
      simpa [same] using ih later

/-- Where the stack parts when the component of a node is closed. -/
structure Parts (s : ComponentSearch) (id : String) (top below : List String) : Prop where
  stack_eq : s.stack = top ++ id :: below
  top_eq : s.stack.takeWhile (· ≠ id) = top
  below_eq : (s.stack.dropWhile (· ≠ id)).drop 1 = below

theorem exists_parts {id : String} (h : id ∈ s.stack) : ∃ top below, s.Parts id top below :=
  ⟨_, _, stack_split h, rfl, rfl⟩

section Close

variable {id : String} {rest : List (String × List String)} {top below : List String}

theorem Parts.done_close (parts : s.Parts id top below) :
    (s.close id).done = s.done ++ [(top ++ [id]).reverse] := by
  rw [close, parts.top_eq]

theorem Parts.stack_close (parts : s.Parts id top below) : (s.close id).stack = below := by
  rw [close, parts.below_eq]

theorem Parts.closed_close (parts : s.Parts id top below) :
    (s.close id).closed = s.closed ++ (top ++ [id]).reverse := by
  rw [closed, parts.done_close, List.flatten_append, List.flatten_singleton]
  rfl

theorem Parts.mem_onStack_close (parts : s.Parts id top below) {v : String} :
    v ∈ (s.close id).onStack ↔ v ∈ s.onStack ∧ v ∉ top ++ [id] := by
  rw [close, parts.top_eq]
  simp

/-- The nodes from a node to the top of the stack are those with at least its number. -/
theorem Parts.index_le_iff (parts : s.Parts id top below) (shape : Shape next all s) {v : String}
    (hv : v ∈ s.stack) : s.indexOf id ≤ s.indexOf v ↔ v ∈ top ++ [id] := by
  have sorted := shape.stack_sorted
  rw [parts.stack_eq, List.pairwise_append, List.pairwise_cons] at sorted
  obtain ⟨-, ⟨lower, -⟩, upper⟩ := sorted
  rw [parts.stack_eq, List.mem_append, List.mem_cons] at hv
  constructor
  · intro above
    rcases hv with hv | rfl | hv
    · simp [hv]
    · simp
    · have lt := lower v hv
      omega
  · intro hv
    rcases List.mem_append.1 hv with hv | hv
    · exact (upper v hv id (by simp)).le
    · rw [List.mem_singleton.1 hv]

theorem Parts.mem_below_iff (parts : s.Parts id top below) (shape : Shape next all s) {v : String}
    (hv : v ∈ s.stack) : v ∈ below ↔ s.indexOf v < s.indexOf id := by
  have distinct := shape.stack_nodup
  rw [parts.stack_eq, List.nodup_append, List.nodup_cons] at distinct
  rw [← not_le, parts.index_le_iff shape hv]
  have split := hv
  rw [parts.stack_eq, List.mem_append, List.mem_cons] at split
  constructor
  · intro low up
    rcases List.mem_append.1 up with up | same
    · exact distinct.2.2 v up v (by simp [low]) rfl
    · rw [List.mem_singleton] at same
      exact distinct.2.1.1 (same ▸ low)
  · intro up
    rw [List.mem_append, List.mem_singleton, not_or] at up
    exact (split.resolve_left up.1).resolve_left up.2

theorem Parts.mem_stack (parts : s.Parts id top below) {v : String} (hv : v ∈ top ++ [id]) :
    v ∈ s.stack := by
  rw [parts.stack_eq]
  rw [List.mem_append, List.mem_singleton] at hv
  rcases hv with hv | rfl <;> simp [*]

/-- Edges lead from the nodes that are closed to such nodes or to complete components: all their
edges were looked at, and the link of the lowest of them is its own number. -/
theorem Parts.next_of_top (parts : s.Parts id top below) (shape : Shape next all s)
    (h : Linked next s) (waits : Waits next s) (hs : s.work = (id, []) :: rest)
    (own : s.linkOf id = s.indexOf id) {u v : String} (hu : u ∈ top ++ [id])
    (follows : v ∈ next u) : v ∈ top ++ [id] ∨ v ∈ s.closed := by
  have stack_u := parts.mem_stack hu
  have above := (parts.index_le_iff shape stack_u).2 hu
  have none_waits : ∀ r, (u, r) ∈ s.work → v ∉ r := by
    intro r hr
    rw [hs] at hr
    rcases List.mem_cons.1 hr with first | later
    · rw [(Prod.mk.inj first).2]
      exact List.not_mem_nil
    · have lt : s.indexOf u < s.indexOf id :=
        shape.index_lt_of_way hs (List.mem_map.2 ⟨_, later, rfl⟩)
      omega
  have met_v : v ∈ s.met := by
    by_contra fresh
    obtain ⟨r, hr, hv⟩ := waits u (shape.stack_met stack_u) v follows fresh
    exact none_waits r hr hv
  rcases (shape.met_iff v).1 met_v with hv | stack_v
  · exact .inr hv
  · obtain ⟨q, hq, order, low⟩ := h.link_covers id (mem_way_of_work hs) u stack_u above v
      stack_v ⟨shape.stack_met stack_u, met_v, follows, none_waits⟩
    rw [way_of_work hs, List.mem_cons] at hq
    rcases hq with rfl | hq
    · exact .inl ((parts.index_le_iff shape stack_v).1 (own ▸ low))
    · have lt := shape.index_lt_of_way hs hq
      omega

theorem Parts.reaches_of_top (parts : s.Parts id top below) (shape : Shape next all s)
    (h : Linked next s) (waits : Waits next s) (hs : s.work = (id, []) :: rest)
    (own : s.linkOf id = s.indexOf id) {u v : String} (hu : u ∈ top ++ [id])
    (path : Reaches next u v) : v ∈ top ++ [id] ∨ v ∈ s.closed := by
  refine path.stays (p := fun x => x ∈ top ++ [id] ∨ x ∈ s.closed) ?_ (.inl hu)
  rintro x (hx | hx) y follows
  · exact parts.next_of_top shape h waits hs own hx follows
  · exact .inr (h.closed_next x hx y follows)

/-- Every node that is closed leads back to the lowest of them, by way of nodes with ever lower
numbers. -/
theorem Parts.returns (parts : s.Parts id top below) (shape : Shape next all s)
    (h : Linked next s) (waits : Waits next s) (hs : s.work = (id, []) :: rest)
    (own : s.linkOf id = s.indexOf id) :
    ∀ n u, u ∈ top ++ [id] → s.indexOf u = n → Reaches next u id := by
  intro n
  induction n using Nat.strong_induction_on with
  | _ n ih =>
    intro u hu number
    by_cases same : u = id
    · rw [same]
      exact .refl
    · have stack_u := parts.mem_stack hu
      have above := (parts.index_le_iff shape stack_u).2 hu
      have left : u ∉ s.way := by
        intro on_way
        rw [way_of_work hs, List.mem_cons] at on_way
        have lt := shape.index_lt_of_way hs (on_way.resolve_left same)
        omega
      obtain ⟨w, stack_w, path, link⟩ := h.link_reaches u stack_u
      have lower := h.left_below u stack_u left
      have hw := (parts.reaches_of_top shape h waits hs own hu path).resolve_right
        (shape.not_closed stack_w)
      exact path.trans (ih (s.indexOf w) (by omega) w hw rfl)

/-- The nodes that are closed are the nodes that one of them reaches and that reach it. -/
theorem Parts.mem_top_iff (parts : s.Parts id top below) (shape : Shape next all s)
    (h : Linked next s) (waits : Waits next s) (hs : s.work = (id, []) :: rest)
    (own : s.linkOf id = s.indexOf id) {u v : String} (hu : u ∈ top ++ [id]) :
    v ∈ top ++ [id] ↔ Reaches next u v ∧ Reaches next v u := by
  have from_root : ∀ x ∈ top ++ [id], Reaches next id x := fun x hx =>
    h.way_reaches id (mem_way_of_work hs) x (parts.mem_stack hx)
      ((parts.index_le_iff shape (parts.mem_stack hx)).2 hx)
  have to_root : ∀ x ∈ top ++ [id], Reaches next x id := fun x hx =>
    parts.returns shape h waits hs own _ x hx rfl
  constructor
  · intro hv
    exact ⟨(to_root u hu).trans (from_root v hv), (to_root v hv).trans (from_root u hu)⟩
  · rintro ⟨out, back⟩
    refine (parts.reaches_of_top shape h waits hs own hu out).resolve_right fun hv => ?_
    have closed_u : u ∈ s.closed := back.stays (p := (· ∈ s.closed)) h.closed_next hv
    exact shape.not_closed (parts.mem_stack hu) closed_u

/-- What is left of the way stands below the nodes that are closed. -/
theorem sublist_below {way top below : List String} (h : (id :: way).Sublist (top ++ id :: below))
    (hid : id ∉ top) : way.Sublist below := by
  induction top with
  | nil => exact List.cons_sublist_cons.1 h
  | cons v top ih =>
    rw [List.mem_cons, not_or] at hid
    refine ih ?_ hid.2
    cases h with
    | cons _ h => exact h
    | cons_cons => exact absurd rfl hid.1

theorem Shape.close (h : Shape next all s) (parts : s.Parts id top below)
    (hs : s.work = (id, []) :: rest) :
    Shape next all (ComponentSearch.close id { s with work := rest }) := by
  have parts' : Parts { s with work := rest } id top below := ⟨parts.1, parts.2, parts.3⟩
  have left := h.leave hs
  have below_sub : below.Sublist s.stack := by
    rw [parts.stack_eq]
    exact (List.sublist_cons_self ..).trans (List.sublist_append_right ..)
  refine { left with
    met_iff := ?_
    nodup := ?_
    onStack_iff := ?_
    stack_sorted := ?_
    way_sublist := ?_ }
  · intro v
    rw [parts'.closed_close, parts'.stack_close, List.mem_append, List.mem_reverse]
    refine (h.met_iff v).trans ?_
    rw [parts.stack_eq]
    simp only [List.mem_append, List.mem_cons, List.not_mem_nil, or_false]
    exact ⟨by tauto, by tauto⟩
  · rw [parts'.closed_close, parts'.stack_close, List.append_assoc]
    have distinct := h.nodup
    rw [parts.stack_eq] at distinct
    refine (List.Perm.nodup_iff ?_).1 distinct
    refine List.Perm.append_left _ ?_
    have same : top ++ id :: below = (top ++ [id]) ++ below := by simp
    rw [same]
    exact (List.reverse_perm _).symm.append_right below
  · intro v
    rw [parts'.mem_onStack_close, parts'.stack_close]
    have distinct := h.stack_nodup
    rw [parts.stack_eq, ← List.singleton_append, ← List.append_assoc, List.nodup_append]
      at distinct
    refine (and_congr_left' (h.onStack_iff v)).trans ?_
    rw [parts.stack_eq, ← List.singleton_append, ← List.append_assoc, List.mem_append]
    exact ⟨fun hv => hv.1.resolve_left hv.2,
      fun hv => ⟨.inr hv, fun up => distinct.2.2 v up v hv rfl⟩⟩
  · rw [parts'.stack_close]
    exact h.stack_sorted.sublist below_sub
  · rw [parts'.stack_close]
    have sub := h.way_sublist
    rw [way_of_work hs, parts.stack_eq] at sub
    refine sublist_below sub fun hid => ?_
    have distinct := h.stack_nodup
    rw [parts.stack_eq, List.nodup_append] at distinct
    exact distinct.2.2 id hid id (by simp) rfl

/-- The nodes from a node to the top of the stack are a component when its link is its own
number. -/
theorem Linked.close (h : Linked next s) (shape : Shape next all s) (waits : Waits next s)
    (parts : s.Parts id top below) (hs : s.work = (id, []) :: rest)
    (own : s.linkOf id = s.indexOf id) :
    Linked next (ComponentSearch.close id { s with work := rest }) := by
  have parts' : Parts { s with work := rest } id top below := ⟨parts.1, parts.2, parts.3⟩
  have way_eq := way_of_work hs
  have on_stack : ∀ v ∈ below, v ∈ s.stack := fun v hv => by
    rw [parts.stack_eq]
    simp [hv]
  have low_of_below : ∀ v ∈ below, s.indexOf v < s.indexOf id := fun v hv =>
    (parts.mem_below_iff shape (on_stack v hv)).1 hv
  have stack_eq := parts'.stack_close
  have closed_eq := parts'.closed_close
  have done_eq := parts'.done_close
  refine { link_reaches := ?_, link_covers := ?_, way_reaches := ?_, way_below := ?_,
           left_below := ?_, closed_next := ?_, component_iff := ?_, component_ne_nil := ?_ }
  · -- a link never leads up the stack, so it does not lead into the component
    intro v hv
    rw [stack_eq] at hv ⊢
    obtain ⟨w, hw, path, same⟩ := h.link_reaches v (on_stack v hv)
    have le := shape.link_le v (shape.stack_met (on_stack v hv))
    have lt := low_of_below v hv
    exact ⟨w, (parts.mem_below_iff shape hw).2 (by omega), path, same⟩
  · intro p hp u hu above v hv edge
    rw [stack_eq] at hu hv
    obtain ⟨q, hq, order, known⟩ := h.link_covers p (mem_way_of_rest hs hp) u
      (on_stack u hu) above v (on_stack v hv) (examined_of_leave hs edge)
    rw [way_eq, List.mem_cons] at hq
    rcases hq with rfl | hq
    · have lt := low_of_below v hv
      omega
    · exact ⟨q, hq, order, known⟩
  · intro p hp u hu above
    rw [stack_eq] at hu
    exact h.way_reaches p (mem_way_of_rest hs hp) u (on_stack u hu) above
  · intro u hu
    rw [stack_eq] at hu
    obtain ⟨p, hp, above⟩ := h.way_below u (on_stack u hu)
    rw [way_eq, List.mem_cons] at hp
    rcases hp with rfl | hp
    · have lt := low_of_below u hu
      omega
    · exact ⟨p, hp, above⟩
  · intro u hu left
    rw [stack_eq] at hu
    refine h.left_below u (on_stack u hu) fun on => ?_
    rw [way_eq, List.mem_cons] at on
    rcases on with rfl | on
    · exact lt_irrefl _ (low_of_below u hu)
    · exact left on
  · intro u hu v follows
    rw [closed_eq, List.mem_append, List.mem_reverse] at hu ⊢
    rcases hu with hu | hu
    · exact .inl (h.closed_next u hu v follows)
    · exact (parts.next_of_top shape h waits hs own hu follows).symm
  · intro c hc u hu v
    rw [done_eq, List.mem_append, List.mem_singleton] at hc
    rcases hc with hc | rfl
    · exact h.component_iff c hc u hu v
    · rw [List.mem_reverse] at hu ⊢
      exact parts.mem_top_iff shape h waits hs own hu
  · intro c hc
    rw [done_eq, List.mem_append, List.mem_singleton] at hc
    rcases hc with hc | rfl
    · exact h.component_ne_nil c hc
    · simp

end Close

end CodeGraph.ComponentSearch

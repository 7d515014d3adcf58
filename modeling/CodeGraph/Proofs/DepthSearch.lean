import CodeGraph.Graph.Depth
import CodeGraph.Proofs.Reach

/-!
# Depths and chains

The depth that a search settles is the number of edges on a longest chain, or tells that there are
chains without end. This holds of every entry of the memory, whichever search made it, and a search
that starts from such a memory ends and leaves one.

Main definitions:

- `HasChain`, `ReachesCycle`: what depths are about;
- `Depth.IsOf`: the depth of an id;
- `DepthSearch.Tidy`: what a step keeps, whatever depths the memory holds;
- `DepthSearch.Sound`: what a step keeps when these are right.

Main statements:

- `Depth.IsOf.unique`: an id has one depth;
- `Tidy.step`, `Sound.step`, `Tidy.run`, `Sound.run`: what a step keeps, and a whole run;
- `Tidy.run_finished`: a run of enough steps ends;
- `settled_explore`, `mem_keys_explore`: a search finds right depths and settles its start;
- `Store.Reachable.longestChain_isOf`: the depth of a node of a graph.
-/
namespace CodeGraph

/-- A chain of so many edges starts at an id. -/
def HasChain (next : String → List String) : Nat → String → Prop
  | 0, _ => True
  | n + 1, u => ∃ v ∈ next u, HasChain next n v

/-- A path leads from an id to a cycle. -/
def ReachesCycle (next : String → List String) (u : String) : Prop :=
  ∃ v, Reaches next u v ∧ OnCycle next v

variable {next : String → List String}

theorem HasChain.of_succ {n : Nat} {u : String} (h : HasChain next (n + 1) u) :
    HasChain next n u := by
  induction n generalizing u with
  | zero => trivial
  | succ n ih =>
    obtain ⟨v, edge, chain⟩ := h
    exact ⟨v, edge, ih chain⟩

theorem HasChain.of_le {m n : Nat} {u : String} (h : HasChain next n u) (le : m ≤ n) :
    HasChain next m u := by
  induction le with
  | refl => exact h
  | step _ ih => exact ih h.of_succ

theorem ReachesCycle.of_edge {u v : String} (edge : v ∈ next u) (h : ReachesCycle next v) :
    ReachesCycle next u := by
  obtain ⟨w, path, cycle⟩ := h
  exact ⟨w, .head edge path, cycle⟩

/-- From an id that reaches a cycle an edge leads to another one. -/
theorem ReachesCycle.exists_edge {u : String} (h : ReachesCycle next u) :
    ∃ v ∈ next u, ReachesCycle next v := by
  obtain ⟨w, path, cycle⟩ := h
  rcases Relation.ReflTransGen.cases_head path with rfl | ⟨v, edge, path⟩
  · obtain ⟨v, edge, back⟩ := Relation.TransGen.head'_iff.1 cycle
    exact ⟨v, edge, u, back, cycle⟩
  · exact ⟨v, edge, w, path, cycle⟩

theorem ReachesCycle.hasChain {u : String} (h : ReachesCycle next u) (n : Nat) :
    HasChain next n u := by
  induction n generalizing u with
  | zero => trivial
  | succ n ih =>
    obtain ⟨v, edge, onward⟩ := h.exists_edge
    exact ⟨v, edge, ih onward⟩

/-- Whether a depth is that of an id: the length of a longest chain, or none when chains from the id
run into a cycle. -/
def Depth.IsOf (next : String → List String) (u : String) : Depth → Prop
  | .finite n => HasChain next n u ∧ ¬ HasChain next (n + 1) u
  | .cyclic => ReachesCycle next u

theorem Depth.IsOf.unique {u : String} {d e : Depth} (hd : d.IsOf next u) (he : e.IsOf next u) :
    d = e := by
  cases d with
  | cyclic =>
    cases e with
    | cyclic => rfl
    | finite n => exact absurd (ReachesCycle.hasChain hd (n + 1)) he.2
  | finite m =>
    cases e with
    | cyclic => exact absurd (ReachesCycle.hasChain he (m + 1)) hd.2
    | finite n =>
      have not_lt : ¬ m < n := fun lt => hd.2 (he.1.of_le lt)
      have not_gt : ¬ n < m := fun lt => he.2 (hd.1.of_le lt)
      rw [Nat.le_antisymm (Nat.not_lt.1 not_gt) (Nat.not_lt.1 not_lt)]

@[simp] theorem DepthFrame.absorb_id (f : DepthFrame) (d : Depth) : (f.absorb d).id = f.id := by
  cases d <;> rfl

@[simp] theorem DepthFrame.absorb_pending (f : DepthFrame) (d : Depth) :
    (f.absorb d).pending = f.pending := by
  cases d <;> rfl

/-- Every depth of a memory is that of its id. -/
def Settled (next : String → List String) (memo : Table String Depth) : Prop :=
  ∀ v d, memo.get? v = some d → d.IsOf next v

/-! ## Frames -/

/-- What a frame has gathered is right. The node of the frame above it, if there is one, is looked
at and not yet settled. -/
structure DepthFrame.Holds (next : String → List String) (memo : Table String Depth)
    (above : Option String) (f : DepthFrame) : Prop where
  above_next : ∀ v, above = some v → v ∈ next f.id
  chain : HasChain next f.depth f.id
  cyclic_reaches : f.cyclic = true → ReachesCycle next f.id
  looked : ∀ v ∈ next f.id, v ∈ f.pending ∨ above = some v ∨ f.cyclic = true ∨
    ∃ n, memo.get? v = some (.finite n) ∧ n < f.depth

/-- Every frame of a stack holds, below the frame of an id. -/
def Stacked (next : String → List String) (memo : Table String Depth) :
    Option String → List DepthFrame → Prop
  | _, [] => True
  | above, f :: rest => f.Holds next memo above ∧ Stacked next memo (some f.id) rest

variable {memo memo' : Table String Depth} {above : Option String} {f : DepthFrame}

namespace DepthFrame.Holds

/-- The depth of a node all of whose successors were looked at is right. -/
theorem settled (h : f.Holds next memo none) (sound : Settled next memo) (hp : f.pending = []) :
    f.settled.IsOf next f.id := by
  rw [DepthFrame.settled]
  by_cases cyclic : f.cyclic = true
  · rw [if_pos cyclic]
    exact h.cyclic_reaches cyclic
  · rw [if_neg cyclic]
    refine ⟨h.chain, ?_⟩
    rintro ⟨v, edge, chain⟩
    rcases h.looked v edge with waits | below | turned | ⟨n, known, lt⟩
    · rw [hp] at waits
      cases waits
    · cases below
    · exact cyclic turned
    · exact (sound v _ known).2 (chain.of_le lt)

/-- The memory may grow. -/
theorem mono (h : f.Holds next memo above)
    (keeps : ∀ v d, memo.get? v = some d → memo'.get? v = some d) : f.Holds next memo' above :=
  { h with
    looked := by
      intro v edge
      rcases h.looked v edge with waits | below | cyclic | ⟨n, known, lt⟩
      · exact .inl waits
      · exact .inr (.inl below)
      · exact .inr (.inr (.inl cyclic))
      · exact .inr (.inr (.inr ⟨n, keeps v _ known, lt⟩)) }

/-- The depth of a successor is taken into account when it stands in the memory. -/
theorem absorb (h : f.Holds next memo above) (targets : List String) {t : String} {d : Depth}
    (right : d.IsOf next t) (edge : t ∈ next f.id)
    (keeps : ∀ v d, memo.get? v = some d → memo'.get? v = some d)
    (known : memo'.get? t = some d)
    (rest : ∀ v, v ∈ f.pending ∨ above = some v → v ∈ targets ∨ v = t) :
    (({ f with pending := targets } : DepthFrame).absorb d).Holds next memo' none := by
  have grown := h.mono keeps
  cases d with
  | cyclic =>
    exact {
      above_next := by simp
      chain := h.chain
      cyclic_reaches := fun _ => .of_edge edge right
      looked := fun v _ => .inr (.inr (.inl rfl)) }
  | finite n =>
    refine {
      above_next := by simp
      chain := ?_
      cyclic_reaches := h.cyclic_reaches
      looked := ?_ }
    · rcases Nat.le_total f.depth (n + 1) with le | le
      · have deeper : max f.depth (n + 1) = n + 1 := Nat.max_eq_right le
        rw [DepthFrame.absorb, deeper]
        exact ⟨t, edge, right.1⟩
      · have same : max f.depth (n + 1) = f.depth := Nat.max_eq_left le
        rw [DepthFrame.absorb, same]
        exact h.chain
    · have here : ∀ v, v ∈ targets ∨ v = t → v ∈ targets ∨ none = some v ∨ f.cyclic = true ∨
          ∃ m, memo'.get? v = some (.finite m) ∧ m < max f.depth (n + 1) := by
        rintro v (waits | rfl)
        · exact .inl waits
        · exact .inr (.inr (.inr ⟨n, known, by omega⟩))
      intro v hv
      rcases grown.looked v hv with waits | below | cyclic | ⟨m, found, lt⟩
      · exact here v (rest v (.inl waits))
      · exact here v (rest v (.inr below))
      · exact .inr (.inr (.inl cyclic))
      · refine .inr (.inr (.inr ⟨m, found, ?_⟩))
        dsimp only [DepthFrame.absorb]
        omega

/-- A successor that reaches the node of the frame is on a cycle with it. -/
theorem turn (h : f.Holds next memo above) {t : String} (targets : List String)
    (edge : t ∈ next f.id) (back : Reaches next t f.id) :
    ({ f with pending := targets, cyclic := true } : DepthFrame).Holds next memo above where
  above_next := h.above_next
  chain := h.chain
  cyclic_reaches := fun _ => ⟨f.id, .refl, Relation.TransGen.head' edge back⟩
  looked := fun _ _ => .inr (.inr (.inl rfl))

/-- A successor that was not settled is searched before the others. -/
theorem descend (h : f.Holds next memo none) {t : String} {targets : List String}
    (hp : f.pending = t :: targets) (edge : t ∈ next f.id) :
    ({ f with pending := targets } : DepthFrame).Holds next memo (some t) where
  above_next := by
    intro v same
    rw [← Option.some.inj same]
    exact edge
  chain := h.chain
  cyclic_reaches := h.cyclic_reaches
  looked := by
    intro v edge
    rcases h.looked v edge with waits | below | cyclic | known
    · rw [hp] at waits
      rcases List.mem_cons.1 waits with rfl | later
      · exact .inr (.inl rfl)
      · exact .inl later
    · cases below
    · exact .inr (.inr (.inl cyclic))
    · exact .inr (.inr (.inr known))

end DepthFrame.Holds

theorem holds_new (next : String → List String) (memo : Table String Depth) (id : String) :
    ({ id := id, pending := next id } : DepthFrame).Holds next memo none where
  above_next := by simp
  chain := trivial
  cyclic_reaches := by simp
  looked := fun _ hv => .inl hv

theorem Stacked.mono {stack : List DepthFrame} (h : Stacked next memo above stack)
    (keeps : ∀ v d, memo.get? v = some d → memo'.get? v = some d) :
    Stacked next memo' above stack := by
  induction stack generalizing above with
  | nil => trivial
  | cons f rest ih => exact ⟨h.1.mono keeps, ih h.2⟩

/-- The nodes of a stack are nodes on the way to the frame above. -/
theorem Stacked.reaches {stack : List DepthFrame} {top : String}
    (h : Stacked next memo (some top) stack) {f : DepthFrame} (hf : f ∈ stack) :
    Reaches next f.id top := by
  induction stack generalizing top with
  | nil => cases hf
  | cons g rest ih =>
    have edge : top ∈ next g.id := h.1.above_next top rfl
    rcases List.mem_cons.1 hf with rfl | later
    · exact .single edge
    · exact (ih h.2 later).tail edge

/-! ## A step -/

namespace DepthSearch

variable {s : DepthSearch}

/-- How the way, the stack and the memory of a search go together, whatever depths the memory
holds. -/
structure Tidy (next : String → List String) (s : DepthSearch) : Prop where
  /-- The nodes on the way are those of the stack. -/
  path_eq : s.onPath = s.stack.map (·.id)
  nodup : s.onPath.Nodup
  /-- No node on the way is settled. -/
  unsettled : ∀ v ∈ s.onPath, v ∉ s.memo.keys
  pending_next : ∀ f ∈ s.stack, ∀ v ∈ f.pending, v ∈ next f.id

/-- Everything that a step of a search for depths keeps when the memory holds right depths. -/
structure Sound (next : String → List String) (s : DepthSearch) : Prop extends Tidy next s where
  settled : Settled next s.memo
  stacked : Stacked next s.memo none s.stack

/-- What one step does. -/
inductive Move (next : String → List String) (s : DepthSearch) : DepthSearch → Prop where
  /-- The search is over. -/
  | idle (hs : s.stack = []) : Move next s s
  /-- A successor is on the way: it closes a cycle. -/
  | turn {f : DepthFrame} {rest : List DepthFrame} {t : String} {ts : List String}
      (hs : s.stack = f :: rest) (hp : f.pending = t :: ts) (on : t ∈ s.onPath) :
      Move next s { s with stack := { f with pending := ts, cyclic := true } :: rest }
  /-- A successor is settled. -/
  | remember {f : DepthFrame} {rest : List DepthFrame} {t : String} {ts : List String} {d : Depth}
      (hs : s.stack = f :: rest) (hp : f.pending = t :: ts) (off : t ∉ s.onPath)
      (known : s.memo.get? t = some d) :
      Move next s { s with stack := ({ f with pending := ts } : DepthFrame).absorb d :: rest }
  /-- A successor is entered. -/
  | descend {f : DepthFrame} {rest : List DepthFrame} {t : String} {ts : List String}
      (hs : s.stack = f :: rest) (hp : f.pending = t :: ts) (off : t ∉ s.onPath)
      (new : s.memo.get? t = none) :
      Move next s { s with
        onPath := t :: s.onPath
        stack := { id := t, pending := next t } :: { f with pending := ts } :: rest }
  /-- The node of the start is settled. -/
  | finish {f : DepthFrame} (hs : s.stack = [f]) (hp : f.pending = []) :
      Move next s ⟨s.memo.insert f.id f.settled, s.onPath.filter (· ≠ f.id), []⟩
  /-- A node is settled, and the one before it takes its depth into account. -/
  | settle {f parent : DepthFrame} {rest : List DepthFrame} (hs : s.stack = f :: parent :: rest)
      (hp : f.pending = []) :
      Move next s ⟨s.memo.insert f.id f.settled, s.onPath.filter (· ≠ f.id),
        parent.absorb f.settled :: rest⟩

/-- Every step is one of the moves. -/
theorem move_step (next : String → List String) (s : DepthSearch) : Move next s (step next s) := by
  rcases hs : s.stack with _ | ⟨f, rest⟩
  · have idle : step next s = s := by simp [step, hs]
    rw [idle]
    exact .idle hs
  · rcases hp : f.pending with _ | ⟨t, ts⟩
    · rcases rest with _ | ⟨parent, rest⟩
      · have finish : step next s =
            ⟨s.memo.insert f.id f.settled, s.onPath.filter (· ≠ f.id), []⟩ := by simp [step, hs, hp]
        rw [finish]
        exact .finish hs hp
      · have settle : step next s = ⟨s.memo.insert f.id f.settled, s.onPath.filter (· ≠ f.id),
            parent.absorb f.settled :: rest⟩ := by simp [step, hs, hp]
        rw [settle]
        exact .settle hs hp
    · by_cases on : t ∈ s.onPath
      · have turn : step next s =
            { s with stack := { f with pending := ts, cyclic := true } :: rest } := by
          simp [step, hs, hp, on]
        rw [turn]
        exact .turn hs hp on
      · cases known : s.memo.get? t with
        | some d =>
          have remember : step next s =
              { s with stack := ({ f with pending := ts } : DepthFrame).absorb d :: rest } := by
            simp [step, hs, hp, on, known]
          rw [remember]
          exact .remember hs hp on known
        | none =>
          have descend : step next s = { s with
              onPath := t :: s.onPath
              stack := { id := t, pending := next t } :: { f with pending := ts } :: rest } := by
            simp [step, hs, hp, on, known]
          rw [descend]
          exact .descend hs hp on known

/-! ## The way and the memory -/

section Tidy

variable {f : DepthFrame} {rest : List DepthFrame}

theorem Tidy.top_on_path (h : Tidy next s) (hs : s.stack = f :: rest) : f.id ∈ s.onPath := by
  simp [h.path_eq, hs]

theorem Tidy.follows (h : Tidy next s) (hs : s.stack = f :: rest) {t : String} {ts : List String}
    (hp : f.pending = t :: ts) : t ∈ next f.id :=
  h.pending_next f (by simp [hs]) t (by simp [hp])

/-- What is known of the latest node may change, when no successor is added to those still to look
at. -/
theorem Tidy.replace (h : Tidy next s) (hs : s.stack = f :: rest) {f' : DepthFrame}
    (same : f'.id = f.id) (sub : ∀ v ∈ f'.pending, v ∈ f.pending) :
    Tidy next { s with stack := f' :: rest } where
  path_eq := by rw [h.path_eq, hs, List.map_cons, List.map_cons, same]
  nodup := h.nodup
  unsettled := h.unsettled
  pending_next := by
    refine List.forall_mem_cons.2 ⟨fun v hv => ?_, fun p below => ?_⟩
    · rw [same]
      exact h.pending_next f (by simp [hs]) v (sub v hv)
    · exact h.pending_next p (by simp [hs, below])

theorem Tidy.descend (h : Tidy next s) (hs : s.stack = f :: rest) {t : String} {ts : List String}
    (hp : f.pending = t :: ts) (off : t ∉ s.onPath) (new : s.memo.get? t = none) :
    Tidy next { s with
      onPath := t :: s.onPath
      stack := { id := t, pending := next t } :: { f with pending := ts } :: rest } := by
  have passed : Tidy next { s with stack := { f with pending := ts } :: rest } :=
    h.replace hs rfl fun v hv => by rw [hp]; exact List.mem_cons_of_mem t hv
  exact {
    path_eq := congrArg (List.cons t) passed.path_eq
    nodup := List.nodup_cons.2 ⟨off, h.nodup⟩
    unsettled := List.forall_mem_cons.2 ⟨Table.get?_eq_none_iff.1 new, h.unsettled⟩
    pending_next := List.forall_mem_cons.2 ⟨fun _ hv => hv, passed.pending_next⟩ }

/-- The way without its latest node. -/
theorem Tidy.path_settled (h : Tidy next s) (hs : s.stack = f :: rest) :
    s.onPath.filter (· ≠ f.id) = rest.map (·.id) := by
  have distinct := h.nodup
  rw [h.path_eq, hs, List.map_cons, List.nodup_cons] at distinct
  rw [h.path_eq, hs, List.map_cons, List.filter_cons_of_neg (by simp), List.filter_eq_self]
  intro v hv
  exact decide_eq_true fun same => distinct.1 (same ▸ hv)

/-- The latest node goes from the way to the memory. -/
theorem Tidy.settle (h : Tidy next s) (hs : s.stack = f :: rest) (d : Depth) :
    Tidy next ⟨s.memo.insert f.id d, s.onPath.filter (· ≠ f.id), rest⟩ where
  path_eq := h.path_settled hs
  nodup := h.nodup.filter _
  unsettled := by
    intro v hv
    obtain ⟨on, apart⟩ := List.mem_filter.1 hv
    rw [Table.mem_keys_insert, not_or]
    exact ⟨h.unsettled v on, of_decide_eq_true apart⟩
  pending_next := fun p below =>
    h.pending_next p (by rw [hs]; exact List.mem_cons_of_mem f below)

theorem Tidy.move (h : Tidy next s) {t : DepthSearch} (m : Move next s t) : Tidy next t := by
  cases m with
  | idle => exact h
  | turn hs hp on => exact h.replace hs rfl fun v hv => by simp [hp, hv]
  | remember hs hp off known =>
    exact h.replace hs (DepthFrame.absorb_id ..) fun v hv => by
      rw [DepthFrame.absorb_pending] at hv
      simp [hp, hv]
  | descend hs hp off new => exact h.descend hs hp off new
  | finish hs hp => exact h.settle hs _
  | settle hs hp =>
    exact (h.settle hs _).replace rfl (DepthFrame.absorb_id ..) fun v hv => by
      rwa [DepthFrame.absorb_pending] at hv

theorem Tidy.step (h : Tidy next s) : Tidy next (DepthSearch.step next s) :=
  h.move (move_step next s)

theorem Tidy.run (h : Tidy next s) (n : Nat) : Tidy next (DepthSearch.run next n s) := by
  induction n generalizing s with
  | zero => exact h
  | succ n ih => exact ih h.step

/-- A search may start from any node that is not settled. -/
theorem tidy_start (next : String → List String) {id : String} (fresh : id ∉ memo.keys) :
    Tidy next (start next memo id) where
  path_eq := rfl
  nodup := List.nodup_singleton id
  unsettled := by simpa [start] using fresh
  pending_next := by simp [start]

end Tidy

/-! ## The depths -/

theorem Sound.turn (h : Sound next s) {f : DepthFrame} {rest : List DepthFrame} {t : String}
    {ts : List String} (hs : s.stack = f :: rest) (hp : f.pending = t :: ts) (on : t ∈ s.onPath) :
    Sound next { s with stack := { f with pending := ts, cyclic := true } :: rest } where
  toTidy := h.toTidy.move (.turn hs hp on)
  settled := h.settled
  stacked := by
    have stacked := h.stacked
    rw [hs] at stacked
    refine ⟨stacked.1.turn ts (h.follows hs hp) ?_, stacked.2⟩
    -- every node on the way reaches the latest one, so the edge closes a cycle
    rw [h.path_eq, hs, List.map_cons, List.mem_cons] at on
    rcases on with rfl | on
    · exact .refl
    · obtain ⟨p, below, rfl⟩ := List.mem_map.1 on
      exact stacked.2.reaches below

theorem Sound.remember (h : Sound next s) {f : DepthFrame} {rest : List DepthFrame} {t : String}
    {ts : List String} {d : Depth} (hs : s.stack = f :: rest) (hp : f.pending = t :: ts)
    (off : t ∉ s.onPath) (known : s.memo.get? t = some d) :
    Sound next { s with
      stack := ({ f with pending := ts } : DepthFrame).absorb d :: rest } where
  toTidy := h.toTidy.move (.remember hs hp off known)
  settled := h.settled
  stacked := by
    have stacked := h.stacked
    rw [hs] at stacked
    have absorbed := stacked.1.absorb ts (h.settled t d known) (h.follows hs hp)
      (fun _ _ same => same) known fun v hv => by simpa [hp, or_comm] using hv
    refine ⟨absorbed, ?_⟩
    rw [DepthFrame.absorb_id]
    exact stacked.2

theorem Sound.descend (h : Sound next s) {f : DepthFrame} {rest : List DepthFrame} {t : String}
    {ts : List String} (hs : s.stack = f :: rest) (hp : f.pending = t :: ts) (off : t ∉ s.onPath)
    (new : s.memo.get? t = none) :
    Sound next { s with
      onPath := t :: s.onPath
      stack := { id := t, pending := next t } :: { f with pending := ts } :: rest } where
  toTidy := h.toTidy.descend hs hp off new
  settled := h.settled
  stacked := by
    have stacked := h.stacked
    rw [hs] at stacked
    exact ⟨holds_new next s.memo t, stacked.1.descend hp (h.follows hs hp), stacked.2⟩

/-- When the latest node is settled, its depth joins the memory. -/
theorem Sound.settled_insert (h : Sound next s) {f : DepthFrame} {rest : List DepthFrame}
    (hs : s.stack = f :: rest) (hp : f.pending = []) :
    Settled next (s.memo.insert f.id f.settled) := by
  have stacked := h.stacked
  rw [hs] at stacked
  intro v d found
  rw [Table.get?_insert] at found
  split at found
  · next same =>
    obtain rfl := Option.some.inj found
    rw [same]
    exact stacked.1.settled h.settled hp
  · exact h.settled v d found

theorem Sound.finish (h : Sound next s) {f : DepthFrame} (hs : s.stack = [f])
    (hp : f.pending = []) :
    Sound next ⟨s.memo.insert f.id f.settled, s.onPath.filter (· ≠ f.id), []⟩ where
  toTidy := h.toTidy.move (.finish hs hp)
  settled := h.settled_insert hs hp
  stacked := trivial

theorem Sound.settle (h : Sound next s) {f parent : DepthFrame} {rest : List DepthFrame}
    (hs : s.stack = f :: parent :: rest) (hp : f.pending = []) :
    Sound next ⟨s.memo.insert f.id f.settled, s.onPath.filter (· ≠ f.id),
      parent.absorb f.settled :: rest⟩ where
  toTidy := h.toTidy.move (.settle hs hp)
  settled := h.settled_insert hs hp
  stacked := by
    have stacked := h.stacked
    rw [hs] at stacked
    have fresh : f.id ∉ s.memo.keys := h.unsettled f.id (h.top_on_path hs)
    have keeps (v : String) (d : Depth) (found : s.memo.get? v = some d) :
        (s.memo.insert f.id f.settled).get? v = some d := Table.get?_insert_of_not_mem fresh found
    have known : (s.memo.insert f.id f.settled).get? f.id = some f.settled := by
      rw [Table.get?_insert, if_pos rfl]
    have absorbed := stacked.2.1.absorb parent.pending (stacked.1.settled h.settled hp)
      (stacked.2.1.above_next f.id rfl) keeps known fun v hv => hv.imp id fun same =>
        (Option.some.inj same).symm
    refine ⟨absorbed, ?_⟩
    rw [DepthFrame.absorb_id]
    exact stacked.2.2.mono keeps

theorem Sound.move (h : Sound next s) {t : DepthSearch} (m : Move next s t) : Sound next t := by
  cases m with
  | idle => exact h
  | turn hs hp on => exact h.turn hs hp on
  | remember hs hp off known => exact h.remember hs hp off known
  | descend hs hp off new => exact h.descend hs hp off new
  | finish hs hp => exact h.finish hs hp
  | settle hs hp => exact h.settle hs hp

theorem Sound.step (h : Sound next s) : Sound next (DepthSearch.step next s) :=
  h.move (move_step next s)

theorem Sound.run (h : Sound next s) (n : Nat) : Sound next (DepthSearch.run next n s) := by
  induction n generalizing s with
  | zero => exact h
  | succ n ih => exact ih h.step

/-- A search may start from any node that is not settled. -/
theorem sound_start (settled : Settled next memo) {id : String} (fresh : id ∉ memo.keys) :
    Sound next (start next memo id) where
  toTidy := tidy_start next fresh
  settled := settled
  stacked := ⟨holds_new next memo id, trivial⟩

/-! ## The end of a search -/

/-- The ids that are settled or on the way. -/
def met (s : DepthSearch) : List String := s.memo.keys ++ s.onPath

/-- The nodes of the stack, the latest first. -/
def stackIds (s : DepthSearch) : List String := s.stack.map (·.id)

/-- The number of steps that are left: the steps of all ids that were not met, and of the nodes on
the way. -/
def remaining (next : String → List String) (all : List String) (s : DepthSearch) : Nat :=
  costWithout next all s.met + (s.stack.map fun f => 1 + f.pending.length).sum

/-- Settling the latest node takes it from the way to the memory. -/
theorem Tidy.mem_met_settled (h : Tidy next s) {f : DepthFrame} {rest : List DepthFrame}
    (hs : s.stack = f :: rest) (d : Depth) (stack : List DepthFrame) (v : String) :
    v ∈ met ⟨s.memo.insert f.id d, s.onPath.filter (· ≠ f.id), stack⟩ ↔ v ∈ s.met := by
  have on : f.id ∈ s.onPath := h.top_on_path hs
  simp only [met, List.mem_append, Table.mem_keys_insert, List.mem_filter, decide_eq_true_eq]
  constructor
  · rintro ((settled | rfl) | ⟨way, -⟩)
    · exact .inl settled
    · exact .inr on
    · exact .inr way
  · rintro (settled | way)
    · exact .inl (.inl settled)
    · by_cases same : v = f.id
      · exact .inl (.inr same)
      · exact .inr ⟨way, same⟩

theorem mem_met_descend {t v : String} (stack : List DepthFrame) :
    v ∈ met ⟨s.memo, t :: s.onPath, stack⟩ ↔ v ∈ s.met ∨ v = t := by
  simp only [met, List.mem_append, List.mem_cons]
  tauto

/-- A step meets the node that it puts on the stack, and no other one. -/
theorem Tidy.meetsPushed (h : Tidy next s) {t : DepthSearch} (m : Move next s t) :
    MeetsPushed met stackIds s t := by
  cases m with
  | idle => exact .of_shorter le_rfl fun _ => .rfl
  | turn hs => exact .of_shorter (by simp [stackIds, hs]) fun _ => .rfl
  | remember hs => exact .of_shorter (by simp [stackIds, hs]) fun _ => .rfl
  | @descend f rest t ts hs hp off new =>
    have fresh : t ∉ s.met := by simp [met, off, Table.get?_eq_none_iff.1 new]
    exact .of_push fresh (by simp [stackIds, hs]) fun _ => mem_met_descend _
  | finish hs => exact .of_shorter (by simp [stackIds]) (h.mem_met_settled hs _ _)
  | settle hs => exact .of_shorter (by simp [stackIds, hs]) (h.mem_met_settled hs _ _)

/-- Every step but the last ones brings the end one step nearer. -/
theorem Tidy.remaining_move (h : Tidy next s) {all : List String} (distinct : all.Nodup)
    (within : ∀ u, ∀ v ∈ next u, v ∈ all) {t : DepthSearch} (m : Move next s t) :
    s.stack = [] ∨ remaining next all t + 1 = remaining next all s := by
  cases m with
  | idle hs => exact .inl hs
  | @turn f rest t ts hs hp on =>
    right
    rw [remaining, remaining, hs, List.map_cons, List.map_cons, List.sum_cons, List.sum_cons, hp,
      List.length_cons]
    dsimp only [met]
    omega
  | @remember f rest t ts d hs hp off known =>
    right
    rw [remaining, remaining, hs, List.map_cons, List.map_cons, List.sum_cons, List.sum_cons, hp,
      List.length_cons, DepthFrame.absorb_pending]
    dsimp only [met]
    omega
  | @descend f rest t ts hs hp off new =>
    right
    have listed : t ∈ all := within f.id t (h.follows hs hp)
    have fresh : t ∉ s.met := by simp [met, off, Table.get?_eq_none_iff.1 new]
    have grown : ∀ v, v ∈ s.memo.keys ++ t :: s.onPath ↔ v ∈ s.met ∨ v = t := fun _ =>
      mem_met_descend []
    rw [remaining, remaining, hs, costWithout_eq_add distinct listed fresh grown, List.map_cons,
      List.map_cons, List.map_cons, List.sum_cons, List.sum_cons, List.sum_cons, hp,
      List.length_cons, cost]
    dsimp only [met]
    omega
  | @finish f hs hp =>
    right
    rw [remaining, remaining, costWithout_congr (h.mem_met_settled hs _ _), hs, List.map_cons,
      List.sum_cons, hp, List.length_nil]
    dsimp only
    omega
  | @settle f parent rest hs hp =>
    right
    rw [remaining, remaining, costWithout_congr (h.mem_met_settled hs _ _), hs, List.map_cons,
      List.map_cons, List.map_cons, List.sum_cons, List.sum_cons, List.sum_cons, hp,
      List.length_nil, DepthFrame.absorb_pending]
    omega

theorem run_of_ended (ended : s.stack = []) (n : Nat) : DepthSearch.run next n s = s := by
  have idle : DepthSearch.step next s = s := by simp [DepthSearch.step, ended]
  induction n with
  | zero => rfl
  | succ n ih => rw [DepthSearch.run, idle, ih]

/-- A run of enough steps comes to the end. -/
theorem Tidy.run_finished (h : Tidy next s) {all : List String} (distinct : all.Nodup)
    (within : ∀ u, ∀ v ∈ next u, v ∈ all) {n : Nat} (enough : remaining next all s ≤ n) :
    (DepthSearch.run next n s).stack = [] := by
  induction n generalizing s with
  | zero =>
    rcases h.remaining_move distinct within (move_step next s) with ended | fewer
    · exact ended
    · omega
  | succ n ih =>
    rcases h.remaining_move distinct within (move_step next s) with ended | fewer
    · rw [run_of_ended ended]
      exact ended
    · exact ih h.step (by omega)

theorem mem_met_start {id v : String} : v ∈ (start next memo id).met ↔ v ∈ memo.keys ∨ v = id := by
  simp [start, met]

/-- A search from a node comes to its end when it may take the steps of all nodes. -/
theorem run_start_finished {all : List String} (distinct : all.Nodup)
    (within : ∀ u, ∀ v ∈ next u, v ∈ all) {id : String} (listed : id ∈ all)
    (fresh : id ∉ memo.keys) {steps : Nat} (enough : (all.map (cost next)).sum ≤ steps) :
    (DepthSearch.run next steps (start next memo id)).stack = [] := by
  refine (tidy_start next fresh).run_finished distinct within ?_
  have costs : costWithout next all memo.keys =
      cost next id + costWithout next all (start next memo id).met :=
    costWithout_eq_add distinct listed fresh fun _ => mem_met_start
  have part := costWithout_le next all memo.keys
  rw [cost] at costs
  rw [remaining, start, List.map_cons, List.map_nil, List.sum_cons, List.sum_nil]
  rw [start] at costs
  dsimp only
  omega

theorem run_eq_iterate (next : String → List String) (n : Nat) (s : DepthSearch) :
    DepthSearch.run next n s = (DepthSearch.step next)^[n] s := by
  induction n generalizing s with
  | zero => rfl
  | succ n ih => exact ih (DepthSearch.step next s)

theorem Tidy.meetsPushed_run (h : Tidy next s) (n : Nat) :
    MeetsPushed met stackIds ((DepthSearch.step next)^[n] s)
      (DepthSearch.step next ((DepthSearch.step next)^[n] s)) := by
  rw [← run_eq_iterate]
  exact (h.run n).meetsPushed (move_step next _)

/-- In the end everything that was met or put on the stack is settled. -/
theorem Tidy.mem_keys_run_iff (h : Tidy next s) {n : Nat}
    (ended : (DepthSearch.run next n s).stack = []) {v : String} :
    v ∈ (DepthSearch.run next n s).memo.keys ↔
      v ∈ s.met ∨ v ∈ pushes (DepthSearch.step next) stackIds n s := by
  have nothing_open : (DepthSearch.run next n s).onPath = [] := by
    rw [(h.run n).path_eq, ended, List.map_nil]
  rw [← mem_met_iterate h.meetsPushed_run, ← run_eq_iterate, met, nothing_open, List.append_nil]

/-- A search that starts from a memory of right depths leaves such a memory. -/
theorem settled_explore (settled : Settled next memo) (steps : Nat) (id : String) :
    Settled next (explore next steps memo id) := by
  rw [explore]
  split
  · exact settled
  · next unknown =>
    have fresh : id ∉ memo.keys := fun known => unknown (Table.contains_iff.2 known)
    exact ((sound_start settled fresh).run steps).settled

/-- A search that comes to its end settles its start. -/
theorem mem_keys_explore {id : String} {steps : Nat}
    (ended : id ∉ memo.keys → (DepthSearch.run next steps (start next memo id)).stack = []) :
    id ∈ (explore next steps memo id).keys := by
  rw [explore]
  split
  · next known => exact Table.contains_iff.1 known
  · next unknown =>
    have fresh : id ∉ memo.keys := fun known => unknown (Table.contains_iff.2 known)
    have begun := tidy_start next fresh
    exact (begun.mem_keys_run_iff (ended fresh)).2 (.inl (mem_met_start.2 (.inr rfl)))

end DepthSearch

namespace Store

variable {g : Store}

/-- The steps that a search may take are enough for every node, and for a start that is none. -/
theorem Reachable.sum_cost_le_depthSteps (h : g.Reachable) (types members : Option (List String))
    (id : String) :
    ((g.ids.insert id).map (cost (g.successors types members))).sum ≤
      g.depthSteps (g.successors types members) := by
  have size_eq := g.length_ids
  have all_ids := sum_cost (g.successors types members) g.ids
  rw [depthSteps, foldl_length]
  by_cases node : id ∈ g.ids
  · rw [List.insert_of_mem node]
    omega
  · have alone : g.successors types members id = [] := by
      refine List.eq_nil_iff_forall_not_mem.2 fun v hv => node ?_
      exact (h.ends_of_mem_neighbors (mem_neighbors_of_mem_successors hv)).1
    rw [List.insert_of_not_mem node, List.map_cons, List.sum_cons, cost, alone, List.length_nil]
    omega

/-- A search for a depth comes to its end, whatever its memory holds. -/
theorem Reachable.explore_finished (h : g.Reachable) (types members : Option (List String))
    {memo : Table String Depth} {id : String} (fresh : id ∉ memo.keys) :
    let next := g.successors types members
    (DepthSearch.run next (g.depthSteps next) (DepthSearch.start next memo id)).stack = [] := by
  have distinct : (g.ids.insert id).Nodup := List.Nodup.insert g.nodes.nodup_keys'
  have within : ∀ u, ∀ v ∈ g.successors types members u, v ∈ g.ids.insert id := fun u v hv =>
    List.mem_insert_iff.2 (.inr (h.ends_of_mem_neighbors (mem_neighbors_of_mem_successors hv)).2)
  exact DepthSearch.run_start_finished distinct within (by simp) fresh
    (h.sum_cost_le_depthSteps types members id)

/-- A search for the depth of a node finds it, from every memory of right depths. -/
theorem Reachable.explore_sound (h : g.Reachable) {types members : Option (List String)}
    {memo : Table String Depth} (settled : Settled (g.successors types members) memo)
    (id : String) :
    let next := g.successors types members
    let found := DepthSearch.explore next (g.depthSteps next) memo id
    Settled next found ∧ id ∈ found.keys :=
  ⟨DepthSearch.settled_explore settled _ id,
    DepthSearch.mem_keys_explore fun fresh => h.explore_finished types members fresh⟩

theorem Reachable.longestChain_isOf (h : g.Reachable) (id : String)
    (types members : Option (List String)) :
    (g.longestChain id types members).IsOf (g.successors types members) id := by
  have none_settled : Settled (g.successors types members) .empty := by
    intro v d found
    cases found
  obtain ⟨settled, known⟩ := h.explore_sound none_settled id
  obtain ⟨d, found⟩ := Option.ne_none_iff_exists'.1 fun new => Table.get?_eq_none_iff.1 new known
  have result : g.longestChain id types members = d := by
    rw [longestChain, found, Option.getD_some]
  rw [result]
  exact settled id d found

/-- A node has no depth when chains from it run into a cycle. -/
theorem Reachable.longestChain_eq_cyclic_iff (h : g.Reachable) {id : String}
    {types members : Option (List String)} :
    g.longestChain id types members = .cyclic ↔
      ReachesCycle (g.successors types members) id := by
  have depth := h.longestChain_isOf id types members
  constructor
  · intro cyclic
    rwa [cyclic] at depth
  · exact fun cyclic => depth.unique (e := .cyclic) cyclic

end Store

end CodeGraph

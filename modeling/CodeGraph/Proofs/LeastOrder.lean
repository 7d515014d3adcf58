import CodeGraph.Proofs.OrderPermutation

/-!
# The least topological order

A graph may have many topological orders. The search finds the first of them in the alphabetical
order of lists: as long as it has placed what another order begins with, the next node of that order
is ready, so the smallest node that is ready is not after it.

Main definitions:

- `IsOrder`: an order of some nodes that answers some demands;
- `NotLater`: the alphabetical order of lists;
- `Store.IsTopologicalOrder`: a topological order of a selection, in either direction.

Main statements:

- `OrderSearch.Sound.mem_ready_of_isOrder`: what may come next is ready;
- `OrderSearch.Sound.run_notLater`: a search goes on no later than any order that begins like it;
- `Store.Reachable.topologicalOrder_exact`: when there is a topological order, and which one is
  found.
-/
namespace CodeGraph

/-- A list holds some nodes, and what is demanded before a node stands before it. -/
structure IsOrder (ids : List String) (demands : List (String × String)) (order : List String) :
    Prop where
  perm : order.Perm ids
  before : ∀ a b, Demanded demands a b → order.idxOf a < order.idxOf b

/-- A list equals another one or comes before it: at the first place where they part, it ends or
goes on with the smaller id. -/
def NotLater (order other : List String) : Prop := order = other ∨ List.Lex (· < ·) order other

theorem NotLater.cons {order other : List String} (h : NotLater order other) (id : String) :
    NotLater (id :: order) (id :: other) :=
  h.imp (congrArg (id :: ·)) .cons

/-- What stands before the first member after some others is one of these. -/
theorem mem_of_idxOf_lt {front rest : List String} {a b : String} (fresh : b ∉ front)
    (lt : (front ++ b :: rest).idxOf a < (front ++ b :: rest).idxOf b) : a ∈ front := by
  by_contra absent
  rw [List.idxOf_append_of_notMem absent, List.idxOf_append_of_notMem fresh,
    List.idxOf_cons_self] at lt
  omega

namespace OrderSearch

variable {ids : List String} {demands : List (String × String)} {s : OrderSearch}

/-! ## What comes next -/

/-- A node that may come next is ready. -/
theorem Sound.mem_ready_of_isOrder (h : Sound ids demands [] s) (distinct : ids.Nodup) {id : String}
    {rest : List String} (valid : IsOrder ids demands (s.order ++ id :: rest)) : id ∈ s.ready := by
  have listed : id ∈ ids := valid.perm.mem_iff.1 (by simp)
  have fresh : id ∉ s.order := by
    have apart := List.disjoint_of_nodup_append (valid.perm.nodup_iff.2 distinct)
    exact fun placed => apart placed List.mem_cons_self
  have free : s.waitingOf id = 0 := by
    rw [h.waiting_eq, List.count_nil, Nat.zero_add, held_eq_zero_iff]
    intro a demanded
    exact mem_of_idxOf_lt fresh (valid.before a id demanded)
  exact (h.mem_ready id).2 ⟨listed, fresh, free⟩

theorem order_step (after : String → List String) {id : String}
    (least : smallest? s.ready = some id) : (step after s).order = s.order ++ [id] := by
  rw [step, least]
  exact order_foldl_release _ _

/-- What is placed stays where it is. -/
theorem order_prefix_run (after : String → List String) (s : OrderSearch) (n : Nat) :
    s.order <+: (s.run after n).order := by
  induction n generalizing s with
  | zero => exact List.prefix_refl _
  | succ n ih =>
    have first : s.order <+: (step after s).order := by
      cases least : smallest? s.ready with
      | none =>
        rw [step_of_ready_nil (smallest?_eq_none_iff.1 least)]
      | some id =>
        rw [order_step after least]
        exact List.prefix_append _ _
    exact first.trans (ih (step after s))

/-- When an order begins with what a search has placed, the search goes on in the same way as the
order, or with a smaller node at the first place where they part. -/
theorem Sound.run_notLater (h : Sound ids demands [] s) (distinct : ids.Nodup)
    (within : ∀ a b, Demanded demands a b → b ∈ ids) {rest : List String}
    (valid : IsOrder ids demands (s.order ++ rest)) :
    ∃ tail, (s.run (followers (Table.group demands)) rest.length).order = s.order ++ tail ∧
      NotLater tail rest := by
  induction rest generalizing s with
  | nil => exact ⟨[], (List.append_nil _).symm, .inl rfl⟩
  | cons next rest ih =>
    have ready := h.mem_ready_of_isOrder distinct valid
    obtain ⟨id, least⟩ : ∃ id, smallest? s.ready = some id := by
      cases found : smallest? s.ready with
      | none =>
        rw [smallest?_eq_none_iff.1 found] at ready
        cases ready
      | some id => exact ⟨id, rfl⟩
    have placed := order_step (followers (Table.group demands)) least
    have le : id ≤ next := (smallest?_eq_some_iff.1 least).2 next ready
    by_cases same : id = next
    · -- the search follows the order one step further
      subst same
      have further : IsOrder ids demands
          ((OrderSearch.step (followers (Table.group demands)) s).order ++ rest) := by
        rw [placed, List.append_assoc]
        exact valid
      obtain ⟨tail, run, before⟩ := ih (h.step within) further
      rw [placed, List.append_assoc] at run
      exact ⟨id :: tail, run, before.cons id⟩
    · -- the search goes its own way from here on
      obtain ⟨tail, run⟩ := order_prefix_run (followers (Table.group demands))
        (OrderSearch.step (followers (Table.group demands)) s) rest.length
      rw [placed, List.append_assoc] at run
      have lt : id < next := String.not_le.1 fun ge => same (String.le_antisymm le ge)
      exact ⟨id :: tail, run.symm, .inr (.rel lt)⟩

end OrderSearch

/-! ## Orders of nodes -/

section Orders

variable {ids : List String} {demands : List (String × String)}

/-- No order comes before the one that is found. -/
theorem orderUnder_notLater (distinct : ids.Nodup)
    (within : ∀ a b, Demanded demands a b → a ∈ ids ∧ b ∈ ids) {other : List String}
    (valid : IsOrder ids demands other) : NotLater (orderUnder ids demands) other := by
  have sound := OrderSearch.sound_start distinct demands
  -- nothing is placed before the first step, so every order begins with it
  have begins : IsOrder ids demands ((OrderSearch.start ids demands).order ++ other) := valid
  obtain ⟨tail, run, first⟩ :=
    sound.run_notLater distinct (fun a b d => (within a b d).2) begins
  unfold orderUnder
  rw [← valid.perm.length_eq, run]
  exact first

/-- When all nodes are placed, they are in order. -/
theorem isOrder_orderUnder (distinct : ids.Nodup)
    (within : ∀ a b, Demanded demands a b → a ∈ ids ∧ b ∈ ids)
    (complete : (orderUnder ids demands).length = ids.length) :
    IsOrder ids demands (orderUnder ids demands) := by
  have sound := (OrderSearch.sound_start distinct demands).run (fun a b d => (within a b d).2)
    ids.length
  have part : (orderUnder ids demands).Subperm ids :=
    sound.order_nodup.subperm sound.order_within
  have perm := part.perm_of_length_le complete.ge
  refine ⟨perm, fun a b demanded => ?_⟩
  exact sound.before a b demanded (perm.mem_iff.2 (within a b demanded).2)

end Orders

/-! ## Topological orders -/

namespace Store

variable {g : Store} {s : Selection} {reverse : Bool} {order : List String}

/-- A list holds the nodes of a selection, each once, and the edges of the selection lead forward in
it; or backward, when the order is reversed. -/
structure IsTopologicalOrder (g : Store) (s : Selection) (reverse : Bool) (order : List String) :
    Prop where
  perm : order.Perm (g.selected s)
  before : ∀ u v, g.Joins s u v →
    if reverse then order.idxOf v < order.idxOf u else order.idxOf u < order.idxOf v

/-- What an edge demands. -/
theorem Reachable.demanded_iff_joins (h : g.Reachable) {a b : String} :
    Demanded (g.demands s reverse) a b ↔ if reverse then g.Joins s b a else g.Joins s a b := by
  have forward {a b : String} : Demanded (g.demands s false) a b ↔ g.Joins s a b := by
    rw [demanded_iff]
    constructor
    · rintro ⟨ha, edge⟩
      exact (h.mem_selectedSuccessors_iff ha).1 edge
    · intro edge
      exact ⟨edge.1, (h.mem_selectedSuccessors_iff edge.1).2 edge⟩
  cases reverse with
  | false => exact forward
  | true => exact demanded_reverse_iff.trans forward

/-- A topological order answers what the edges demand. -/
theorem Reachable.isTopologicalOrder_iff (h : g.Reachable) :
    g.IsTopologicalOrder s reverse order ↔
      IsOrder (g.selected s) (g.demands s reverse) order := by
  have demands {a b : String} : Demanded (g.demands s reverse) a b ↔
      if reverse then g.Joins s b a else g.Joins s a b := h.demanded_iff_joins
  constructor
  · rintro ⟨perm, before⟩
    refine ⟨perm, fun a b demanded => ?_⟩
    have joined := demands.1 demanded
    cases reverse with
    | false => exact before a b joined
    | true => exact before b a joined
  · rintro ⟨perm, before⟩
    refine ⟨perm, fun u v joined => ?_⟩
    cases reverse with
    | false => exact before u v (demands.2 joined)
    | true => exact before v u (demands.2 joined)

/-- There is no topological order when the edges of a selection run in a circle. -/
theorem Reachable.topologicalOrder_eq_none_iff_cycle (h : g.Reachable) (s : Selection)
    (reverse : Bool) :
    g.topologicalOrder s reverse = none ↔ ∃ u, Relation.TransGen (g.Joins s) u u := by
  rw [topologicalOrder_eq_none_iff]
  constructor
  · rintro ⟨u, hu, cycle⟩
    exact ⟨u, (h.onCycle_iff hu).1 cycle⟩
  · rintro ⟨u, cycle⟩
    obtain ⟨v, edge, -⟩ := Relation.TransGen.head'_iff.1 cycle
    exact ⟨u, edge.1, (h.onCycle_iff edge.1).2 cycle⟩

/-- When the edges of a selection do not run in a circle, a topological order is found, and no other
one comes before it in the alphabetical order of lists. When they do, none is found. -/
theorem Reachable.topologicalOrder_exact (h : g.Reachable) (s : Selection) (reverse : Bool) :
    ((¬ ∃ u, Relation.TransGen (g.Joins s) u u) →
      ∃ order, g.topologicalOrder s reverse = some order ∧
        g.IsTopologicalOrder s reverse order ∧
        ∀ other, g.IsTopologicalOrder s reverse other → NotLater order other) ∧
    ((∃ u, Relation.TransGen (g.Joins s) u u) → g.topologicalOrder s reverse = none) := by
  have distinct := g.nodup_selected s
  have within : ∀ a b, Demanded (g.demands s reverse) a b →
      a ∈ g.selected s ∧ b ∈ g.selected s := fun a b demanded => demanded_selected demanded
  refine ⟨fun acyclic => ?_, (h.topologicalOrder_eq_none_iff_cycle s reverse).2⟩
  rw [← h.topologicalOrder_eq_none_iff_cycle s reverse, topologicalOrder] at acyclic
  have complete : (orderUnder (g.selected s) (g.demands s reverse)).length =
      (g.selected s).length := by
    by_contra short
    exact acyclic (if_neg short)
  refine ⟨orderUnder (g.selected s) (g.demands s reverse), if_pos complete, ?_, ?_⟩
  · exact h.isTopologicalOrder_iff.2 (isOrder_orderUnder distinct within complete)
  · intro other valid
    exact orderUnder_notLater distinct within (h.isTopologicalOrder_iff.1 valid)

/-- Repositories that came up out of order: two of them need the same package manager, one of these
for two reasons, and a document needs nothing. -/
def toolchain : Store :=
  (empty.applyAll [.addNode ⟨"web", NodeType.repo, "web", []⟩,
    .addNode ⟨"core", NodeType.repo, "core", []⟩, .addNode ⟨"docs", NodeType.repo, "docs", []⟩,
    .addNode ⟨"pack", NodeType.repo, "pack", []⟩, .addNode ⟨"App", NodeType.repo, "App", []⟩,
    .addEdge ⟨"core", "pack", EdgeType.dependsOn, []⟩,
    .addEdge ⟨"core", "pack", EdgeType.devDependsOn, []⟩,
    .addEdge ⟨"web", "pack", EdgeType.dependsOn, []⟩,
    .addEdge ⟨"App", "web", EdgeType.dependsOn, []⟩]).1

/-- The same with one more edge, which closes a circle. -/
def circularToolchain : Store :=
  (toolchain.apply (.addEdge ⟨"pack", "App", EdgeType.devDependsOn, []⟩)).1

/-- Capitals come before small letters, but the application waits for what it needs. -/
theorem Reachable.topologicalOrder_exact_toolchain :
    toolchain.Reachable ∧
    toolchain.topologicalOrder .repoGraph true = some ["docs", "pack", "core", "web", "App"] ∧
    (∀ other, toolchain.IsTopologicalOrder .repoGraph true other →
      NotLater ["docs", "pack", "core", "web", "App"] other) ∧
    circularToolchain.Reachable ∧ circularToolchain.topologicalOrder .repoGraph true = none := by
  have reachable : toolchain.Reachable := ⟨_, rfl⟩
  have run : toolchain.topologicalOrder .repoGraph true =
      some ["docs", "pack", "core", "web", "App"] := by decide
  have acyclic : ¬ ∃ u, Relation.TransGen (toolchain.Joins .repoGraph) u u := by
    rw [← reachable.topologicalOrder_eq_none_iff_cycle .repoGraph true, run]
    exact Option.some_ne_none _
  obtain ⟨order, found, -, least⟩ := (reachable.topologicalOrder_exact .repoGraph true).1 acyclic
  obtain rfl := Option.some.inj (found.symm.trans run)
  have circular : circularToolchain.Reachable := reachable.apply _
  have joins {u v : String} (hu : u ∈ circularToolchain.selected .repoGraph)
      (hv : v ∈ circularToolchain.selectedSuccessors .repoGraph u) :
      circularToolchain.Joins .repoGraph u v := (circular.mem_selectedSuccessors_iff hu).1 hv
  have cycle : Relation.TransGen (circularToolchain.Joins .repoGraph) "web" "web" :=
    .head (joins (v := "pack") (by decide) (by decide))
      (.head (joins (v := "App") (by decide) (by decide)) (.single (joins (by decide) (by decide))))
  exact ⟨reachable, run, least, circular,
    (circular.topologicalOrder_exact .repoGraph true).2 ⟨"web", cycle⟩⟩

end Store

end CodeGraph

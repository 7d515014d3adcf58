import CodeGraph.Proofs.Building

/-!
# Strict builds

A build that may not leave edges out takes the same steps as one that may, as long as no edge is
left out. The first edge that would be left out stops it, and the error names an end of that edge
which is no node at its turn. The dependencies of the manifests, which come after the edges, stop no
build.

Main definition:

- `MissingEnd.Among`: what a missing end says of the nodes there are.

Main statements:

- `Facts.foldlM_addEdge_error`: the edge at which a build stops, and the graph at its turn;
- `Facts.strict_build_agrees`: when a build stops, where, and what it makes if it does not stop.
-/
namespace CodeGraph

/-- An end of an edge that is missing among some nodes. The source is looked at before the
target. -/
structure MissingEnd.Among (m : MissingEnd) (ids : List String) : Prop where
  not_mem : m.missing ∉ ids
  source_first : m.missing = m.edge.source ∨ m.edge.source ∈ ids ∧ m.missing = m.edge.target

theorem Store.missingEnd?_eq_some {g : Store} {e : Edge} {id : String}
    (h : g.missingEnd? e = some id) : MissingEnd.Among ⟨e, id⟩ g.ids := by
  rw [missingEnd?] at h
  by_cases source : e.source ∈ g.ids
  · by_cases target : e.target ∈ g.ids
    · rw [contains_eq_true_iff.2 source, contains_eq_true_iff.2 target] at h
      cases h
    · have absent : g.contains e.target = false := Table.contains_eq_false_iff.2 target
      rw [contains_eq_true_iff.2 source, absent] at h
      obtain rfl : e.target = id := Option.some.inj h
      exact ⟨target, .inr ⟨source, rfl⟩⟩
  · have absent : g.contains e.source = false := Table.contains_eq_false_iff.2 source
    rw [absent] at h
    obtain rfl : e.source = id := Option.some.inj h
    exact ⟨source, .inl rfl⟩

namespace Facts

variable {b c : Built} {e : Edge} {es : List Edge} {m : MissingEnd}

/-! ## One edge -/

/-- An edge that a strict build adds is added by every build. -/
theorem addEdge_true_of_ok (h : addEdge false b e = .ok c) :
    addEdge true b e = .ok c ∧ c.dropped = b.dropped := by
  rw [addEdge] at h ⊢
  cases added : (admitImport b.graph e).addEdge e with
  | ok g =>
    rw [added] at h
    obtain rfl : { b with graph := g } = c := Except.ok.inj h
    exact ⟨rfl, rfl⟩
  | error m =>
    rw [added] at h
    cases h

/-- An edge that stops a strict build lacks an end, and a build that may leave it out does so. -/
theorem addEdge_true_of_error (h : addEdge false b e = .error m) :
    m.edge = e ∧ m.Among (admitImport b.graph e).ids ∧
      addEdge true b e = .ok ⟨admitImport b.graph e, b.dropped ++ [e]⟩ := by
  rw [addEdge, Store.addEdge] at h
  rw [addEdge, Store.addEdge]
  cases missing : (admitImport b.graph e).missingEnd? e with
  | none =>
    rw [missing] at h
    cases h
  | some id =>
    rw [missing] at h
    obtain rfl : (⟨e, id⟩ : MissingEnd) = m := Except.error.inj h
    exact ⟨rfl, Store.missingEnd?_eq_some missing, rfl⟩

/-! ## All edges -/

/-- Edges that a strict build adds are added by every build. -/
theorem foldlM_addEdge_of_ok (h : es.foldlM (addEdge false) b = .ok c) :
    es.foldlM (addEdge true) b = .ok c ∧ c.dropped = b.dropped := by
  induction es generalizing b with
  | nil =>
    obtain rfl : b = c := Except.ok.inj h
    exact ⟨rfl, rfl⟩
  | cons e es ih =>
    rw [List.foldlM_cons] at h ⊢
    cases step : addEdge false b e with
    | error m =>
      rw [step] at h
      cases h
    | ok d =>
      rw [step] at h
      obtain ⟨added, same⟩ := addEdge_true_of_ok step
      obtain ⟨rest, kept⟩ := ih h
      rw [added]
      exact ⟨rest, kept.trans same⟩

/-- The edge that stops a strict build is the first one that a build may leave out. Up to its turn
both builds add the same edges. -/
theorem foldlM_addEdge_error (h : es.foldlM (addEdge false) b = .error m) :
    ∃ front back g, es = front ++ m.edge :: back ∧
      front.foldlM (addEdge true) b = .ok ⟨g, b.dropped⟩ ∧
      addEdge true ⟨g, b.dropped⟩ m.edge =
        .ok ⟨admitImport g m.edge, b.dropped ++ [m.edge]⟩ ∧
      m.Among (admitImport g m.edge).ids := by
  induction es generalizing b with
  | nil => cases h
  | cons e es ih =>
    rw [List.foldlM_cons] at h
    cases step : addEdge false b e with
    | error n =>
      rw [step] at h
      obtain rfl : n = m := Except.error.inj h
      obtain ⟨rfl, among, left_out⟩ := addEdge_true_of_error step
      exact ⟨[], es, b.graph, rfl, rfl, left_out, among⟩
    | ok c =>
      rw [step] at h
      obtain ⟨added, same⟩ := addEdge_true_of_ok step
      obtain ⟨front, back, g, split, before, turn, among⟩ := ih h
      rw [same] at before turn
      refine ⟨e :: front, back, g, by rw [split, List.cons_append], ?_, turn, among⟩
      rw [List.foldlM_cons, added]
      exact before

/-! ## Whole builds -/

variable {f : Facts}

/-- Only an edge stops a build: the manifests come last and add all their dependencies. -/
theorem edges_of_build_error (h : f.build false = .error m) :
    f.edges.foldlM (addEdge false) ⟨f.nodeGraph, []⟩ = .error m := by
  cases edges : f.edges.foldlM (addEdge false) ⟨f.nodeGraph, []⟩ with
  | error n =>
    rw [build, edges] at h
    exact h
  | ok c =>
    -- the manifests would stop a build that may leave edges out as well
    obtain ⟨b, lenient, -⟩ := build_true f
    rw [build, (foldlM_addEdge_of_ok edges).1] at lenient
    rw [build, edges] at h
    cases h.symm.trans lenient

/-- The nodes at the turn of an edge: those that the facts declare, and those that the edges up to
this one bring along. -/
theorem mem_ids_turn {front : List Edge} {g : Store} {dropped : List Edge}
    (before : front.foldlM (addEdge true) ⟨f.nodeGraph, []⟩ = .ok ⟨g, dropped⟩) (e : Edge)
    (id : String) :
    id ∈ (admitImport g e).ids ↔ id ∈ f.nodeGraph.ids ∨ id ∈ (front ++ [e]).flatMap brings := by
  obtain ⟨c, run, -, holds⟩ := foldlM_addEdge_true (b := ⟨f.nodeGraph, []⟩) front
    (holds_nodeGraph f) fun _ => Iff.rfl
  obtain rfl : c = ⟨g, dropped⟩ := Except.ok.inj (run.symm.trans before)
  rw [mem_ids_admitImport holds, List.mem_append, holds.mem_ids_iff, isSome_orOfIds_iff,
    Store.isSome_node?_iff, List.flatMap_append, List.mem_append, List.flatMap_singleton, or_assoc]

/-- What is left out first heads the list of what is left out. -/
theorem dropped_of_turn {front back : List Edge} {g : Store}
    (split : f.edges = front ++ e :: back)
    (before : front.foldlM (addEdge true) ⟨f.nodeGraph, []⟩ = .ok ⟨g, []⟩)
    (turn : addEdge true ⟨g, []⟩ e = .ok ⟨admitImport g e, [e]⟩) :
    ∃ rest, f.sifted.dropped = e :: rest := by
  obtain ⟨c, run, dropped, -⟩ := foldlM_addEdge_true (b := ⟨f.nodeGraph, []⟩) f.edges
    (holds_nodeGraph f) fun _ => Iff.rfl
  obtain ⟨d, first, -, holds⟩ := foldlM_addEdge_true (b := ⟨f.nodeGraph, []⟩) front
    (holds_nodeGraph f) fun _ => Iff.rfl
  obtain rfl : d = ⟨g, []⟩ := Except.ok.inj (first.symm.trans before)
  obtain ⟨c', later, dropped', -⟩ := foldlM_addEdge_true (b := ⟨admitImport g e, [e]⟩) back
    (holds_admitImport holds e) fun _ => Iff.rfl
  have whole : f.edges.foldlM (addEdge true) ⟨f.nodeGraph, []⟩ = .ok c' := by
    rw [split, List.foldlM_append, before]
    show (addEdge true ⟨g, []⟩ e >>= fun b => back.foldlM (addEdge true) b) = .ok c'
    rw [turn]
    exact later
  obtain rfl : c = c' := Except.ok.inj (run.symm.trans whole)
  exact ⟨_, dropped.symm.trans dropped'⟩

/-- A build that may leave edges out is never refused. A strict build is refused exactly when the
other one leaves an edge out. The error names the first such edge: at its turn nothing has been left
out, the nodes are those that the facts declare and that the imports so far bring along, and the
named end is not among them; the target is named only if the source is. If no edge is left out, both
builds make the same graph. -/
theorem strict_build_agrees (f : Facts) :
    ∃ b, f.build true = .ok b ∧
      ((∃ m, f.build false = .error m) ↔ b.dropped ≠ []) ∧
      (∀ m, f.build false = .error m → ∃ front back rest g,
        f.edges = front ++ m.edge :: back ∧ b.dropped = m.edge :: rest ∧
        front.foldlM (addEdge true) ⟨f.nodeGraph, []⟩ = .ok ⟨g, []⟩ ∧
        addEdge true ⟨g, []⟩ m.edge = .ok ⟨admitImport g m.edge, [m.edge]⟩ ∧
        (∀ id, id ∈ (admitImport g m.edge).ids ↔
          id ∈ f.nodeGraph.ids ∨ id ∈ (front ++ [m.edge]).flatMap brings) ∧
        m.Among (admitImport g m.edge).ids) ∧
      (b.dropped = [] → f.build false = .ok b) := by
  obtain ⟨b, lenient, dropped, -⟩ := build_true f
  refine ⟨b, lenient, ⟨?_, ?_⟩, ?_, ?_⟩
  · rintro ⟨m, refused⟩ none
    rw [build_false_of_nil (dropped.symm.trans none), lenient] at refused
    cases refused
  · intro some_dropped
    exact build_false_of_ne_nil fun none => some_dropped (dropped.trans none)
  · intro m refused
    obtain ⟨front, back, g, split, before, turn, among⟩ :=
      foldlM_addEdge_error (edges_of_build_error refused)
    obtain ⟨rest, first⟩ := dropped_of_turn split before turn
    exact ⟨front, back, rest, g, split, dropped.trans first, before, turn,
      mem_ids_turn before m.edge, among⟩
  · intro none
    rw [build_false_of_nil (dropped.symm.trans none), lenient]

end Facts

end CodeGraph

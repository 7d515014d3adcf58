import CodeGraph.Proofs.Adjacency
import CodeGraph.Proofs.Change

/-!
# A graph as one list of edges

The plain picture of a graph: a table of nodes, and one list of edges in the order they were added.
A store answers every change as this picture does, and finds at each node the edges of the list.

Main definitions:

- `Multigraph.apply`: the changes to the plain picture;
- `Store.Indexes`: a store holds the nodes and edges of a plain picture.

Main statements:

- `Indexes.apply`: a change keeps a store and its picture together, and both reply the same;
- `Store.applyAll_eq_multigraph`: so do all changes from the empty graph on.
-/
namespace CodeGraph

/-- A graph as a table of nodes and a list of edges. -/
structure Multigraph where
  nodes : Table String Node := .empty
  /-- The edges in the order they were added. -/
  edges : List Edge := []

namespace Multigraph

/-- Whether an edge starts or ends at a node. -/
def touches (id : String) (e : Edge) : Bool := e.source = id ∨ e.target = id

/-- Make a change. An edge is added between nodes only; the first equal edge is removed; a node goes
with all edges that touch it. -/
def apply (m : Multigraph) : Change → Multigraph × Reply
  | .addNode n => ({ m with nodes := m.nodes.insert n.id n }, .done)
  | .addEdge e =>
    if e.source ∉ m.nodes.keys then (m, .refused ⟨e, e.source⟩)
    else if e.target ∉ m.nodes.keys then (m, .refused ⟨e, e.target⟩)
    else ({ m with edges := m.edges ++ [e] }, .done)
  | .removeEdge e => ({ m with edges := m.edges.eraseP e.same }, .removed (m.edges.any e.same))
  | .removeNode id =>
    if id ∈ m.nodes.keys then
      (⟨m.nodes.erase id, m.edges.filter fun e => !touches id e⟩, .removed true)
    else (m, .removed false)
  | .clear => ({}, .done)

/-- Make changes one after the other. -/
def applyAll : Multigraph → List Change → Multigraph × List Reply
  | m, [] => (m, [])
  | m, c :: cs =>
    let first := m.apply c
    let rest := applyAll first.1 cs
    (rest.1, first.2 :: rest.2)

/-- The edges of a type that leave a node. -/
def leaving (m : Multigraph) (id type : String) : List Edge :=
  m.edges.filter fun e => e.source = id ∧ e.type = type

/-- The edges of a type that reach a node. -/
def reaching (m : Multigraph) (id type : String) : List Edge :=
  m.edges.filter fun e => e.target = id ∧ e.type = type

theorem eraseP_of_absent {es : List Edge} {e : Edge} (absent : es.any e.same = false) :
    es.eraseP e.same = es :=
  List.eraseP_of_forall_not fun x hx same => by simp [List.any_eq_true.2 ⟨x, hx, same⟩] at absent

/-- Remove the first edge equal to each edge of a list. -/
def eraseEach (es : List Edge) (gone : List Edge) : List Edge :=
  gone.foldl (fun es e => es.eraseP e.same) es

/-- A part of the edges that is removed from the front on is gone in the end, whatever else is
removed. Edges are in the same part when they are equal. -/
theorem filter_eraseEach_eq_nil {p : Edge → Bool} (hp : ∀ e x, e.same x = true → p x = p e)
    {es gone : List Edge} (h : es.filter p <+: gone.filter p) :
    (eraseEach es gone).filter p = [] := by
  induction gone generalizing es with
  | nil => exact List.prefix_nil.1 h
  | cons e gone ih =>
    refine ih (?_ : (es.eraseP e.same).filter p <+: gone.filter p)
    cases he : p e with
    | false =>
      rw [List.filter_cons_of_neg (by simp [he])] at h
      rwa [filter_eraseP_of_disjoint fun x hx => by rw [hp e x hx, he]]
    | true =>
      rw [List.filter_cons_of_pos he, List.prefix_cons_iff] at h
      rw [filter_eraseP_of_imp fun x hx => by rw [hp e x hx, he]]
      rcases h with none_left | ⟨rest, first, later⟩
      · simp [none_left]
      · rwa [first, List.eraseP_cons_of_pos e.same_refl]

/-- A part of the edges that nothing is removed from stays. -/
theorem filter_eraseEach_eq_self {p : Edge → Bool} (hp : ∀ e x, e.same x = true → p x = p e)
    {es gone : List Edge} (h : ∀ e ∈ gone, p e = false) :
    (eraseEach es gone).filter p = es.filter p := by
  induction gone generalizing es with
  | nil => rfl
  | cons e gone ih =>
    have rest : (eraseEach (es.eraseP e.same) gone).filter p = (es.eraseP e.same).filter p :=
      ih fun x hx => h x (by simp [hx])
    rw [filter_eraseP_of_disjoint fun x hx => by rw [hp e x hx, h e (by simp)]] at rest
    exact rest

theorem touches_of_same {id : String} {e x : Edge} (h : e.same x = true) :
    touches id x = touches id e := by
  obtain ⟨hs, ht, -, -⟩ := Edge.same_iff.1 h
  simp [touches, hs, ht]

/-- A list holds the edges that have one end at a node, in order within each type. -/
def ListsEnd (part es : List Edge) (endOf : Edge → String) (id : String) : Prop :=
  ∀ type, (part.filter fun e => e.type = type) = es.filter fun e => endOf e = id ∧ e.type = type

theorem ListsEnd.end_eq {part es : List Edge} {f : Edge → String} {id : String}
    (h : ListsEnd part es f id) {e : Edge} (he : e ∈ part) : f e = id := by
  have listed : e ∈ part.filter fun x => x.type = e.type := List.mem_filter.2 ⟨he, by simp⟩
  rw [h e.type] at listed
  exact (of_decide_eq_true (List.mem_filter.1 listed).2).1

theorem ListsEnd.filter_eq {part es : List Edge} {f : Edge → String} {id : String}
    (h : ListsEnd part es f id) (type : String) :
    (part.filter fun e => f e = id ∧ e.type = type) =
      es.filter fun e => f e = id ∧ e.type = type := by
  rw [← h type]
  exact List.filter_congr fun x hx => by simp [h.end_eq hx]

section Touching

variable {es out into : List Edge} {id : String}

theorem source_ne_of_mem_eraseEach (hout : ListsEnd out es Edge.source id) {e : Edge}
    (he : e ∈ eraseEach es (out ++ into)) : e.source ≠ id := by
  intro hs
  have part : (eraseEach es (out ++ into)).filter
      (fun x => x.source = id ∧ x.type = e.type) = [] := by
    refine filter_eraseEach_eq_nil ?_ ?_
    · intro d x hx
      obtain ⟨same_source, -, same_type, -⟩ := Edge.same_iff.1 hx
      simp [same_source, same_type]
    · rw [List.filter_append, hout.filter_eq]
      exact List.prefix_append _ _
  exact List.filter_eq_nil_iff.1 part e he (by simp [hs])

/-- The edges from the node to itself are gone when its incoming edges are removed, so the others
are looked at by themselves. -/
theorem target_ne_of_mem_eraseEach (hout : ListsEnd out es Edge.source id)
    (hinto : ListsEnd into es Edge.target id) {e : Edge}
    (he : e ∈ eraseEach es (out ++ into)) : e.target ≠ id := by
  intro ht
  have narrow : ∀ l : List Edge,
      l.filter (fun x => x.source ≠ id ∧ x.target = id ∧ x.type = e.type) =
        (l.filter fun x => x.target = id ∧ x.type = e.type).filter fun x => x.source ≠ id :=
    fun l => by simp
  have part : (eraseEach es (out ++ into)).filter
      (fun x => x.source ≠ id ∧ x.target = id ∧ x.type = e.type) = [] := by
    refine filter_eraseEach_eq_nil ?_ ?_
    · intro d x hx
      obtain ⟨same_source, same_target, same_type, -⟩ := Edge.same_iff.1 hx
      simp [same_source, same_target, same_type]
    · have none_out :
          out.filter (fun x => x.source ≠ id ∧ x.target = id ∧ x.type = e.type) = [] :=
        List.filter_eq_nil_iff.2 fun x hx => by simp [hout.end_eq hx]
      have whole : es.filter (fun x => x.source ≠ id ∧ x.target = id ∧ x.type = e.type) =
          (out ++ into).filter fun x => x.source ≠ id ∧ x.target = id ∧ x.type = e.type := by
        rw [List.filter_append, none_out, List.nil_append, narrow, narrow, hinto.filter_eq]
      exact ⟨[], by rw [List.append_nil, whole]⟩
  exact List.filter_eq_nil_iff.1 part e he (by simp [ht, source_ne_of_mem_eraseEach hout he])

/-- Removing the edges that leave a node and then those that reach it removes exactly the edges that
touch it. An edge from the node to itself is listed twice, and no longer there the second time. -/
theorem eraseEach_touching (hout : ListsEnd out es Edge.source id)
    (hinto : ListsEnd into es Edge.target id) :
    eraseEach es (out ++ into) = es.filter fun e => !touches id e := by
  have clean : (eraseEach es (out ++ into)).filter (fun e => !touches id e) =
      eraseEach es (out ++ into) :=
    List.filter_eq_self.2 fun e he => by
      simp [touches, source_ne_of_mem_eraseEach hout he, target_ne_of_mem_eraseEach hout hinto he]
  rw [← clean]
  refine filter_eraseEach_eq_self (fun e x hx => by rw [touches_of_same hx]) fun e he => ?_
  rcases List.mem_append.1 he with ho | hi
  · simp [touches, hout.end_eq ho]
  · simp [touches, hinto.end_eq hi]

end Touching

end Multigraph

/-- A store holds the nodes and edges of a plain picture, and indexes the edges at both ends. -/
structure Store.Indexes (g : Store) (m : Multigraph) : Prop where
  nodes : g.nodes = m.nodes
  leaving_keys : g.leaving.keys = g.ids
  reaching_keys : g.reaching.keys = g.ids
  leaving : g.leaving.Lists Edge.source m.edges
  reaching : g.reaching.Lists Edge.target m.edges
  edgeCount : g.edgeCount = m.edges.length
  /-- Nodes are stored under their own ids. -/
  own_id : ∀ id n, g.node? id = some n → n.id = id
  /-- Both ends of every edge are nodes. -/
  ends : ∀ e ∈ m.edges, e.source ∈ g.ids ∧ e.target ∈ g.ids

namespace Store.Indexes

variable {g : Store} {m : Multigraph}

theorem of_empty : Store.empty.Indexes {} where
  nodes := rfl
  leaving_keys := rfl
  reaching_keys := rfl
  leaving := Adjacency.lists_empty _
  reaching := Adjacency.lists_empty _
  edgeCount := rfl
  own_id := by intro id n h; cases h
  ends := by simp

/-- Nodes are stored under their own ids, so the table is told by the nodes alone. -/
theorem entries_nodes_eq (h : g.Indexes m) :
    g.nodes.entries = g.allNodes.map fun n => (n.id, n) := by
  unfold allNodes Table.values
  rw [List.map_map]
  refine (List.map_id _).symm.trans (List.map_congr_left fun e he => ?_)
  have found : g.node? e.1 = some e.2 := Table.get?_eq_some_iff.2 he
  exact Prod.ext (h.own_id e.1 e.2 found).symm rfl

theorem ids_eq_map_allNodes (h : g.Indexes m) : g.ids = g.allNodes.map Node.id := by
  unfold ids Table.keys
  rw [h.entries_nodes_eq, List.map_map]
  rfl

theorem node?_of_mem_allNodes (h : g.Indexes m) {n : Node} (hn : n ∈ g.allNodes) :
    g.node? n.id = some n := by
  apply Table.get?_eq_some_iff.2
  rw [h.entries_nodes_eq]
  exact List.mem_map_of_mem hn

theorem addNode (h : g.Indexes m) (n : Node) :
    (g.addNode n).Indexes { m with nodes := m.nodes.insert n.id n } where
  nodes := by rw [Store.addNode, h.nodes]
  leaving_keys := by
    have keys := h.leaving_keys
    simp only [Store.addNode, ids, Table.keys_insertNew, Table.keys_insert] at keys ⊢
    rw [keys]
  reaching_keys := by
    have keys := h.reaching_keys
    simp only [Store.addNode, ids, Table.keys_insertNew, Table.keys_insert] at keys ⊢
    rw [keys]
  leaving := h.leaving.insertNew n.id
  reaching := h.reaching.insertNew n.id
  edgeCount := h.edgeCount
  own_id := by
    intro id k hk
    simp only [Store.addNode, node?, Table.get?_insert] at hk
    split at hk
    · next hid => cases hk; exact hid.symm
    · exact h.own_id id k hk
  ends := fun e he =>
    ⟨mem_ids_addNode.2 (.inl (h.ends e he).1), mem_ids_addNode.2 (.inl (h.ends e he).2)⟩

theorem attach (h : g.Indexes m) {e : Edge} (hs : e.source ∈ g.ids) (ht : e.target ∈ g.ids) :
    (g.attach e).Indexes { m with edges := m.edges ++ [e] } where
  nodes := h.nodes
  leaving_keys := by
    rw [Store.attach, Adjacency.keys_add (h.leaving_keys ▸ hs)]
    exact h.leaving_keys
  reaching_keys := by
    rw [Store.attach, Adjacency.keys_add (h.reaching_keys ▸ ht)]
    exact h.reaching_keys
  leaving := h.leaving.add e
  reaching := h.reaching.add e
  edgeCount := by simp [Store.attach, h.edgeCount]
  own_id := h.own_id
  ends := by
    intro x hx
    rcases List.mem_append.1 hx with old | new
    · exact h.ends x old
    · rw [List.mem_singleton.1 new]
      exact ⟨hs, ht⟩

/-- The bucket of an edge holds an equal edge when the list of all edges does. -/
theorem any_bucket (h : g.Indexes m) (e : Edge) :
    ((g.leaving.bucketsAt e.source).ofType e.type).any e.same = m.edges.any e.same := by
  rw [h.leaving, List.any_filter]
  congr 1
  funext x
  cases hx : e.same x
  · simp
  · obtain ⟨hs, -, ht, -⟩ := Edge.same_iff.1 hx
    simp [hs, ht]

theorem removeEdge_none (h : g.Indexes m) {e : Edge} (absent : m.edges.any e.same = false) :
    g.removeEdge? e = none := by
  rw [removeEdge?, h.any_bucket, absent]
  rfl

theorem removeEdge_some (h : g.Indexes m) {e : Edge} (present : m.edges.any e.same = true) :
    ∃ k, g.removeEdge? e = some k ∧ k.Indexes { m with edges := m.edges.eraseP e.same } := by
  obtain ⟨x, hx, same⟩ := List.any_eq_true.1 present
  obtain ⟨hs, ht, -, -⟩ := Edge.same_iff.1 same
  have ends := h.ends x hx
  rw [← hs, ← ht] at ends
  refine ⟨_, by rw [Store.removeEdge?, h.any_bucket, if_pos present], ?_⟩
  exact {
    nodes := h.nodes
    leaving_keys := by
      rw [Adjacency.keys_remove (h.leaving_keys ▸ ends.1)]
      exact h.leaving_keys
    reaching_keys := by
      rw [Adjacency.keys_remove (h.reaching_keys ▸ ends.2)]
      exact h.reaching_keys
    leaving := h.leaving.remove fun y hy => (Edge.same_iff.1 hy).1.symm
    reaching := h.reaching.remove fun y hy => (Edge.same_iff.1 hy).2.1.symm
    edgeCount := by
      rw [List.length_eraseP_of_mem hx same, ← h.edgeCount]
    own_id := h.own_id
    ends := fun y hy => h.ends y (List.mem_of_mem_eraseP hy) }

theorem removeEdges (h : g.Indexes m) (gone : List Edge) :
    (g.removeEdges gone).Indexes { m with edges := Multigraph.eraseEach m.edges gone } := by
  induction gone generalizing g m with
  | nil => exact h
  | cons e gone ih =>
    cases found : m.edges.any e.same with
    | false =>
      have same := Multigraph.eraseP_of_absent found
      have rest := ih h
      rw [Store.removeEdges, List.foldl_cons, h.removeEdge_none found, Option.getD_none]
      rw [Multigraph.eraseEach, List.foldl_cons, same]
      exact rest
    | true =>
      obtain ⟨k, hk, indexes⟩ := h.removeEdge_some found
      have rest := ih indexes
      rw [Store.removeEdges, List.foldl_cons, hk, Option.getD_some]
      rw [Multigraph.eraseEach, List.foldl_cons]
      exact rest

theorem removeNode (h : g.Indexes m) {id : String} (hid : id ∈ g.ids) :
    ∃ k, g.removeNode? id = some k ∧
      k.Indexes ⟨m.nodes.erase id, m.edges.filter fun e => !Multigraph.touches id e⟩ := by
  have bare := h.removeEdges (g.outgoing id ++ g.incoming id)
  have out : Multigraph.ListsEnd (g.outgoing id) m.edges Edge.source id :=
    h.leaving.filter_edgesAt_none id
  have into : Multigraph.ListsEnd (g.incoming id) m.edges Edge.target id :=
    h.reaching.filter_edgesAt_none id
  rw [Multigraph.eraseEach_touching out into] at bare
  have apart : ∀ e ∈ m.edges.filter (fun e => !Multigraph.touches id e),
      e.source ≠ id ∧ e.target ≠ id := by
    intro e he
    simpa [Multigraph.touches] using (List.mem_filter.1 he).2
  refine ⟨_, by rw [removeNode?, if_pos (contains_eq_true_iff.2 hid)], ?_⟩
  -- what is left touches the node no more, so nothing is lost with its three entries
  exact {
    nodes := by rw [bare.nodes]
    leaving_keys := by
      have keys := bare.leaving_keys
      simp only [ids, Table.keys_erase] at keys ⊢
      rw [keys]
    reaching_keys := by
      have keys := bare.reaching_keys
      simp only [ids, Table.keys_erase] at keys ⊢
      rw [keys]
    leaving := bare.leaving.erase fun e he => (apart e he).1
    reaching := bare.reaching.erase fun e he => (apart e he).2
    edgeCount := bare.edgeCount
    own_id := by
      intro j n hn
      simp only [node?, Table.get?_erase] at hn
      split at hn
      · cases hn
      · exact bare.own_id j n hn
    ends := by
      intro e he
      have old := bare.ends e he
      simp only [ids, Table.keys_erase, List.mem_filter] at old ⊢
      simp [old, apart e he] }

/-- A change keeps a store and its plain picture together, and both reply the same. -/
theorem apply (h : g.Indexes m) (c : Change) :
    (g.apply c).1.Indexes (m.apply c).1 ∧ (g.apply c).2 = (m.apply c).2 := by
  have keys : m.nodes.keys = g.ids := by rw [ids, h.nodes]
  cases c with
  | addNode n => exact ⟨h.addNode n, rfl⟩
  | addEdge e =>
    simp only [Store.apply, Multigraph.apply, Store.addEdge, missingEnd?, keys]
    by_cases hs : e.source ∈ g.ids
    · by_cases ht : e.target ∈ g.ids
      · simpa [hs, ht, contains_eq_true_iff.2] using h.attach hs ht
      · have absent : g.contains e.target = false := Table.contains_eq_false_iff.2 ht
        simpa [hs, ht, absent, contains_eq_true_iff.2] using h
    · have absent : g.contains e.source = false := Table.contains_eq_false_iff.2 hs
      simpa [hs, absent] using h
  | removeEdge e =>
    simp only [Store.apply, Multigraph.apply]
    cases found : m.edges.any e.same with
    | false =>
      have same := Multigraph.eraseP_of_absent found
      rw [h.removeEdge_none found, same]
      exact ⟨h, rfl⟩
    | true =>
      obtain ⟨k, hk, indexes⟩ := h.removeEdge_some found
      rw [hk]
      exact ⟨indexes, rfl⟩
  | removeNode id =>
    simp only [Store.apply, Multigraph.apply, keys]
    by_cases hid : id ∈ g.ids
    · obtain ⟨k, hk, indexes⟩ := h.removeNode hid
      rw [hk, if_pos hid]
      exact ⟨indexes, rfl⟩
    · have absent : g.contains id = false := Table.contains_eq_false_iff.2 hid
      rw [removeNode?, absent, if_neg hid]
      exact ⟨h, rfl⟩
  | clear => exact ⟨of_empty, rfl⟩

theorem applyAll (h : g.Indexes m) (cs : List Change) :
    (g.applyAll cs).1.Indexes (m.applyAll cs).1 ∧ (g.applyAll cs).2 = (m.applyAll cs).2 := by
  induction cs generalizing g m with
  | nil => exact ⟨h, rfl⟩
  | cons c cs ih =>
    obtain ⟨first, reply⟩ := h.apply c
    obtain ⟨rest, replies⟩ := ih first
    refine ⟨rest, ?_⟩
    rw [Store.applyAll, Multigraph.applyAll, reply, replies]

end Store.Indexes

/-- From the empty graph on, a store replies to changes as one list of edges does, and afterwards
finds at each node the edges of that list: type by type in the order the types are asked for, and in
the order the edges were added within a type. -/
theorem Store.applyAll_eq_multigraph (cs : List Change) :
    let g := (Store.empty.applyAll cs).1
    let m := (Multigraph.applyAll {} cs).1
    (Store.empty.applyAll cs).2 = (Multigraph.applyAll {} cs).2 ∧
      g.nodes = m.nodes ∧ g.edgeCount = m.edges.length ∧ g.edges.Perm m.edges ∧
      (∀ id types, g.outgoing id (some types) = types.eraseDups.flatMap (m.leaving id)) ∧
      (∀ id types, g.incoming id (some types) = types.eraseDups.flatMap (m.reaching id)) ∧
      (∀ id, (g.outgoing id).Perm (m.edges.filter fun e => e.source = id)) ∧
      (∀ id, (g.incoming id).Perm (m.edges.filter fun e => e.target = id)) := by
  obtain ⟨indexes, replies⟩ := Indexes.of_empty.applyAll cs
  exact ⟨replies, indexes.nodes, indexes.edgeCount, indexes.leaving.allEdges_perm,
    indexes.leaving.edgesAt_some, indexes.reaching.edgesAt_some,
    indexes.leaving.edgesAt_none_perm, indexes.reaching.edgesAt_none_perm⟩

end CodeGraph

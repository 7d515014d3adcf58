import CodeGraph.Graph.Stats
import CodeGraph.Proofs.Classes
import CodeGraph.Proofs.Consistency
import CodeGraph.Proofs.ShuffledGraphs

/-!
# Graphs that are built again

The nodes and edges of a graph can be written out as facts and built again. The buckets of a graph
tell of its past: of types that ran empty, and of nodes that were removed and came back. The build
fills new ones from the list of all edges, and finds at each node the same edges in the same order,
since this list already stands by nodes and types.

Main definitions:

- `Store.facts`: the nodes and edges of a graph as facts;
- `Store.rebuilt`: the graph that is built of them.

Main statements:

- `Adjacency.edgesAt_foldl_add`: the edges at a node of an adjacency that is filled from a list;
- `Table.ofList_entries`: a table that is filled from its own entries;
- `Store.Indexes.build_facts`: the build of the facts of a graph, which leaves out nothing;
- `Store.Reachable.build_facts_exact`: the graph that is built again.
-/
namespace CodeGraph

/-! ## Filling an adjacency -/

namespace Buckets

/-- Put an edge at the end of its bucket. -/
def put (b : Buckets) (e : Edge) : Buckets := b.insert e.type (b.ofType e.type ++ [e])

/-- Buckets that are filled from a list hold its edges by their types. -/
theorem values_foldl_put (es : List Edge) :
    (Table.values (es.foldl put .empty)).flatten = grouped Edge.type es := by
  have group : es.foldl put .empty = Table.group (es.map fun e => (e.type, e)) := by
    unfold Table.group
    rw [List.foldl_map]
    rfl
  rw [group, Table.values_group]

end Buckets

namespace Adjacency

/-- An edge changes the buckets of its own node only. -/
theorem bucketsAt_add (a : Adjacency) (id j : String) (e : Edge) :
    (a.add id e).bucketsAt j = if j = id then (a.bucketsAt id).put e else a.bucketsAt j :=
  bucketsAt_insert ..

/-- The buckets of a node are filled with the edges that have their end there. -/
theorem bucketsAt_foldl_add (endOf : Edge → String) (es : List Edge) (a : Adjacency) (id : String) :
    (es.foldl (fun a e => a.add (endOf e) e) a).bucketsAt id =
      (es.filter fun e => endOf e = id).foldl Buckets.put (a.bucketsAt id) := by
  induction es generalizing a with
  | nil => rfl
  | cons e es ih =>
    rw [List.foldl_cons, ih, bucketsAt_add]
    by_cases here : endOf e = id
    · rw [if_pos here.symm, List.filter_cons_of_pos (by simpa using here), List.foldl_cons, here]
    · rw [if_neg (Ne.symm here), List.filter_cons_of_neg (by simpa using here)]

/-- In an adjacency without edges that is filled from a list, the edges at a node are those of the
list that have their end there, by their types. -/
theorem edgesAt_foldl_add {a : Adjacency} (bare : ∀ id, a.bucketsAt id = .empty)
    (endOf : Edge → String) (es : List Edge) (id : String) :
    Adjacency.edgesAt (es.foldl (fun a e => a.add (endOf e) e) a) id none =
      grouped Edge.type (es.filter fun e => endOf e = id) := by
  unfold edgesAt Buckets.select
  rw [bucketsAt_foldl_add, bare]
  exact Buckets.values_foldl_put _

end Adjacency

/-! ## Filling a table -/

namespace Table

variable {κ ν : Type}

theorem eq_of_entries_eq {t u : Table κ ν} (same : t.entries = u.entries) : t = u := by
  cases t
  cases u
  cases same
  rfl

variable [DecidableEq κ]

theorem insertEntry_of_not_mem {k : κ} {v : ν} {es : List (κ × ν)} (new : k ∉ es.map Prod.fst) :
    insertEntry k v es = es ++ [(k, v)] := by
  induction es with
  | nil => rfl
  | cons e es ih =>
    obtain ⟨other, later⟩ := List.ne_and_not_mem_of_not_mem_cons new
    rw [insertEntry, if_neg (Ne.symm other), ih later]
    rfl

theorem entries_foldl_insert (es : List (κ × ν)) (t : Table κ ν)
    (distinct : (t.keys ++ es.map Prod.fst).Nodup) :
    (es.foldl (fun t e => t.insert e.1 e.2) t).entries = t.entries ++ es := by
  induction es generalizing t with
  | nil => exact (List.append_nil _).symm
  | cons e es ih =>
    have new : e.1 ∉ t.keys := by
      intro old
      exact List.disjoint_of_nodup_append distinct old List.mem_cons_self
    have grown : (t.insert e.1 e.2).keys = t.keys ++ [e.1] := by
      rw [keys_insert, if_neg new]
    have step : (t.insert e.1 e.2).entries = t.entries ++ [e] := insertEntry_of_not_mem new
    rw [List.foldl_cons, ih, step, List.append_assoc, List.singleton_append]
    rw [grown, List.append_assoc, List.singleton_append]
    exact distinct

/-- A table is made again of its entries. -/
theorem ofList_entries (t : Table κ ν) : ofList t.entries = t := by
  apply eq_of_entries_eq
  exact entries_foldl_insert t.entries empty t.nodup_keys

end Table

/-! ## Nodes -/

/-- The nodes and edges of a graph as facts. -/
def Store.facts (g : Store) : Facts := { nodes := g.allNodes, edges := g.edges }

namespace Store

variable {g : Store} {m : Multigraph}

/-- Nodes that are added to a graph without edges leave it without. -/
theorem bucketsAt_foldl_addNode (ns : List Node) (g : Store) (id : String) :
    (ns.foldl addNode g).leaving.bucketsAt id = g.leaving.bucketsAt id := by
  induction ns generalizing g with
  | nil => rfl
  | cons n ns ih =>
    rw [List.foldl_cons, ih]
    exact Adjacency.bucketsAt_insertNew ..

theorem nodes_foldl_addNode (ns : List Node) (g : Store) :
    (ns.foldl addNode g).nodes = ns.foldl (fun t n => t.insert n.id n) g.nodes := by
  induction ns generalizing g with
  | nil => rfl
  | cons n ns ih => exact ih (g.addNode n)

namespace Indexes

/-- The nodes are made again, since they stand under their own ids. -/
theorem nodes_nodeGraph_facts (h : g.Indexes m) : g.facts.nodeGraph.nodes = g.nodes := by
  have declared : g.facts.nodeGraph = g.allNodes.foldl Store.addNode empty :=
    congrArg (List.foldl Store.addNode empty) (List.append_nil g.allNodes)
  have again := Table.ofList_entries g.nodes
  unfold Table.ofList at again
  rw [h.entries_nodes_eq, List.foldl_map] at again
  rw [declared, nodes_foldl_addNode]
  exact again

end Indexes

end Store

/-! ## Edges -/

namespace Facts

/-- Where both ends are nodes, an edge is added, whether edges may be left out or not. -/
theorem addEdge_of_nodes {g : Store} {e : Edge} (hs : e.source ∈ g.ids) (ht : e.target ∈ g.ids)
    (skip : Bool) (dropped : List Edge) :
    addEdge skip ⟨g, dropped⟩ e = .ok ⟨g.attach e, dropped⟩ := by
  have admitted : admitImport g e = g := by
    unfold admitImport
    rw [Store.ensureNode_of_mem ht, ite_self]
  have added := Store.addEdge_eq_ok_iff.2 ⟨⟨hs, ht⟩, rfl⟩
  unfold addEdge
  dsimp only
  rw [admitted, added]

/-- Edges between nodes are all added. -/
theorem foldlM_addEdge_of_nodes {g : Store} {es : List Edge}
    (nodes : ∀ e ∈ es, e.source ∈ g.ids ∧ e.target ∈ g.ids) (skip : Bool) (dropped : List Edge) :
    es.foldlM (addEdge skip) ⟨g, dropped⟩ = .ok ⟨es.foldl Store.attach g, dropped⟩ := by
  induction es generalizing g with
  | nil => rfl
  | cons e es ih =>
    obtain ⟨first, later⟩ := List.forall_mem_cons.1 nodes
    rw [List.foldlM_cons, addEdge_of_nodes first.1 first.2]
    have rest : ∀ d ∈ es, d.source ∈ (g.attach e).ids ∧ d.target ∈ (g.attach e).ids := later
    exact ih rest

end Facts

namespace Store

variable {g : Store} {m : Multigraph} {look : String → Option Node} {old es : List Edge}

theorem Holds.foldl_attach (hg : g.Holds look old)
    (nodes : ∀ e ∈ es, e.source ∈ g.ids ∧ e.target ∈ g.ids) :
    (es.foldl Store.attach g).Holds look (old ++ es) := by
  induction es generalizing g old with
  | nil => simpa using hg
  | cons e es ih =>
    obtain ⟨first, later⟩ := List.forall_mem_cons.1 nodes
    have rest := ih (hg.attach first.1 first.2) later
    rw [List.append_assoc] at rest
    exact rest

theorem leaving_foldl_attach (es : List Edge) (g : Store) :
    (es.foldl attach g).leaving = es.foldl (fun a e => a.add e.source e) g.leaving := by
  induction es generalizing g with
  | nil => rfl
  | cons e es ih => exact ih (g.attach e)

theorem nodes_foldl_attach (es : List Edge) (g : Store) : (es.foldl attach g).nodes = g.nodes := by
  induction es generalizing g with
  | nil => rfl
  | cons e es ih => exact ih (g.attach e)

/-- The graph that is built of the nodes and edges of a graph. -/
def rebuilt (g : Store) : Store := g.edges.foldl attach g.facts.nodeGraph

namespace Indexes

theorem nodes_rebuilt (h : g.Indexes m) : g.rebuilt.nodes = g.nodes := by
  unfold rebuilt
  rw [nodes_foldl_attach, h.nodes_nodeGraph_facts]

theorem ends_of_mem_edges (h : g.Indexes m) {e : Edge} (he : e ∈ g.edges) :
    e.source ∈ g.facts.nodeGraph.ids ∧ e.target ∈ g.facts.nodeGraph.ids := by
  have listed : e ∈ m.edges := h.leaving.allEdges_perm.mem_iff.1 he
  unfold ids
  rw [h.nodes_nodeGraph_facts]
  exact h.ends e listed

/-- Nothing is refused or left out. -/
theorem build_facts (h : g.Indexes m) (skip : Bool) : g.facts.build skip = .ok ⟨g.rebuilt, []⟩ := by
  have added := Facts.foldlM_addEdge_of_nodes (fun e he => h.ends_of_mem_edges he) skip []
  unfold Facts.build
  show (g.edges.foldlM _ _ >>= _) = _
  rw [added]
  rfl

theorem holds_rebuilt (h : g.Indexes m) : g.rebuilt.Holds g.node? g.edges := by
  have bare := Facts.holds_nodeGraph g.facts
  have same : g.facts.nodeGraph.node? = g.node? := by
    unfold node?
    rw [h.nodes_nodeGraph_facts]
  rw [same] at bare
  exact bare.foldl_attach fun e he => h.ends_of_mem_edges he

/-- The edges that leave a node are found in the same order. -/
theorem outgoing_none_rebuilt (h : g.Indexes m) (id : String) :
    g.rebuilt.outgoing id none = g.outgoing id none := by
  have bare (id : String) : g.facts.nodeGraph.leaving.bucketsAt id = .empty :=
    bucketsAt_foldl_addNode _ empty id
  have own : g.edges.filter (fun e => e.source = id) = g.outgoing id none :=
    h.leaving.filter_allEdges id
  unfold rebuilt outgoing
  rw [leaving_foldl_attach, Adjacency.edgesAt_foldl_add bare, own]
  -- the edges of a node stand by their types already
  exact Table.grouped_values Edge.type _ fun _ _ => h.leaving.type_eq

theorem edges_rebuilt (h : g.Indexes m) : g.rebuilt.edges = g.edges := by
  obtain ⟨k, indexes, -⟩ := h.holds_rebuilt.indexes
  have ids : g.rebuilt.ids = g.ids := by
    unfold ids
    rw [h.nodes_rebuilt]
  unfold edges
  rw [Adjacency.allEdges_eq, Adjacency.allEdges_eq, indexes.leaving_keys, h.leaving_keys, ids]
  apply List.flatMap_congr
  intro id _
  exact h.outgoing_none_rebuilt id

theorem outgoing_rebuilt (h : g.Indexes m) (id : String) (types : Option (List String)) :
    g.rebuilt.outgoing id types = g.outgoing id types := by
  cases types with
  | none => exact h.outgoing_none_rebuilt id
  | some types =>
    have part (type : String) : (g.edges.filter fun e => e.source = id ∧ e.type = type) =
        m.edges.filter fun e => e.source = id ∧ e.type = type := by
      rw [← h.leaving.filter_edgesAt_none id type, ← h.leaving.filter_allEdges id,
        List.filter_filter]
      apply List.filter_congr
      intro e _
      simp [Bool.and_comm]
    rw [h.holds_rebuilt.outgoing_eq]
    simp only [part]
    exact (h.leaving.edgesAt_some id types).symm

theorem shuffled_rebuilt (h : g.Indexes m) : g.rebuilt.Shuffled g where
  node?_eq := fun id => congrFun h.holds_rebuilt.node?_eq id
  indexes := by
    obtain ⟨k, indexes, same⟩ := h.holds_rebuilt.indexes
    refine ⟨k, m, indexes, h, ?_⟩
    rw [same]
    exact h.leaving.allEdges_perm

theorem stats_rebuilt (h : g.Indexes m) : g.rebuilt.stats = g.stats := by
  obtain ⟨k, indexes, -⟩ := h.holds_rebuilt.indexes
  have count : g.rebuilt.edgeCount = g.edgeCount := by
    rw [indexes.consistent.edgeCount_edges, h.consistent.edgeCount_edges, h.edges_rebuilt]
  unfold stats nodeCount allNodes
  rw [h.nodes_rebuilt, h.edges_rebuilt, count]

end Indexes

/-- A graph can be written out and built again. Whatever changes made it, the build of its nodes and
edges is not refused and leaves out nothing. The new graph has the same nodes and lists the same
edges, both in the same order, and so does it list those that leave a node, of any types or of all.
Those that reach a node are the same in some order. Nodes and edges are counted alike. -/
theorem Reachable.build_facts_exact (h : g.Reachable) :
    ∃ b, g.facts.build false = .ok b ∧ b.dropped = [] ∧ b.graph.nodes = g.nodes ∧
      b.graph.edges = g.edges ∧
      (∀ id types, b.graph.outgoing id types = g.outgoing id types) ∧
      (∀ id types, (b.graph.incoming id types).Perm (g.incoming id types)) ∧
      b.graph.stats = g.stats := by
  obtain ⟨m, indexes⟩ := h.indexes
  exact ⟨⟨g.rebuilt, []⟩, indexes.build_facts false, rfl, indexes.nodes_rebuilt,
    indexes.edges_rebuilt, indexes.outgoing_rebuilt, indexes.shuffled_rebuilt.incoming_perm,
    indexes.stats_rebuilt⟩

/-- Modules that changed a few times: imports that were taken back and made again, a call that is
made twice, one of a module to itself, and a module that was removed and came back. -/
def patches : List Change :=
  [.addNode ⟨"util", "module", "util", []⟩, .addNode ⟨"app", "module", "app", []⟩,
    .addNode ⟨"core", "module", "core", []⟩, .addEdge ⟨"app", "core", EdgeType.imports, []⟩,
    .addEdge ⟨"app", "util", EdgeType.imports, []⟩, .removeNode "util",
    .addEdge ⟨"core", "app", EdgeType.calls, []⟩, .addEdge ⟨"app", "app", EdgeType.calls, []⟩,
    .addEdge ⟨"app", "core", EdgeType.calls, []⟩, .addEdge ⟨"app", "core", EdgeType.calls, []⟩,
    .removeEdge ⟨"app", "core", EdgeType.imports, []⟩, .addNode ⟨"util", "module", "new", []⟩,
    .addEdge ⟨"app", "util", EdgeType.imports, []⟩]

/-- The imports still come before the calls. Among the calls that reach a module, its own now comes
first. -/
theorem Reachable.build_facts_exact_patches :
    ∃ b, (empty.applyAll patches).1.facts.build false = .ok b ∧
      b.graph.ids = ["app", "core", "util"] ∧
      b.graph.outgoing "app" = [⟨"app", "util", EdgeType.imports, []⟩,
        ⟨"app", "app", EdgeType.calls, []⟩, ⟨"app", "core", EdgeType.calls, []⟩,
        ⟨"app", "core", EdgeType.calls, []⟩] ∧
      (b.graph.incoming "app").Perm ((empty.applyAll patches).1.incoming "app") ∧
      b.graph.predecessors "app" = ["app", "core"] ∧
      (empty.applyAll patches).1.predecessors "app" = ["core", "app"] := by
  obtain ⟨b, run, -, nodes, -, leaving, reaching, -⟩ :=
    Reachable.build_facts_exact (g := (empty.applyAll patches).1) ⟨patches, rfl⟩
  refine ⟨b, run, ?_, ?_, reaching "app" none, ?_, rfl⟩
  · rw [ids, nodes]
    decide
  · rw [leaving]
    rfl
  · obtain rfl := Except.ok.inj run
    decide

end Store

end CodeGraph

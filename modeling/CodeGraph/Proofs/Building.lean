import CodeGraph.Facts.Build
import CodeGraph.Proofs.Multigraph

/-!
# What is built of facts

A build looks at the edges of the facts one after the other. Whether an edge is added depends only
on the ids that are nodes by then: those that the facts declare, and those that imports before it
brought along. So the edges are sifted over a growing list of ids, without a look at the graph. A
build that may leave edges out adds the edges that fit and makes all targets of imports nodes; a
build that may not is refused at the first edge that does not fit.

Main definitions:

- `Store.Holds`: a graph holds the nodes that a look-up finds, and a list of edges;
- `Facts.Fits`, `Facts.sift`: the edges that are added, and those that are left out;
- `Facts.finalNode?`, `Facts.finalEdges`: what the graph of some facts holds.

Main statements:

- `Facts.foldlM_addEdge_true`: what the edges of the facts make of a graph;
- `Facts.foldlM_addDependencies`: what the manifests make of it, which is never refused;
- `Facts.build_true`, `Facts.build_false_of_nil`, `Facts.build_false_of_ne_nil`: the whole build.
-/
namespace CodeGraph

/-- The node of a type that goes by its id. -/
def Node.ofId (type id : String) : Node := ⟨id, type, id, []⟩

/-- The nodes that a look-up finds, and nodes of a type for the ids of a list that it does not
find. -/
def orOfIds (look : String → Option Node) (type : String) (ids : List String) (id : String) :
    Option Node :=
  (look id).or (if id ∈ ids then some (.ofId type id) else none)

section Look

variable {look : String → Option Node} {type : String}

@[simp] theorem orOfIds_nil : orOfIds look type [] = look := by
  funext id
  simp [orOfIds]

theorem orOfIds_append (ids more : List String) :
    orOfIds (orOfIds look type ids) type more = orOfIds look type (ids ++ more) := by
  funext id
  by_cases old : id ∈ ids <;> by_cases new : id ∈ more <;> simp [orOfIds, old, new]

theorem orOfIds_congr {ids ids' : List String} (same : ∀ id, id ∈ ids ↔ id ∈ ids') :
    orOfIds look type ids = orOfIds look type ids' := by
  funext id
  simp only [orOfIds, same]

theorem isSome_orOfIds_iff {ids : List String} {id : String} :
    (orOfIds look type ids id).isSome ↔ (look id).isSome ∨ id ∈ ids := by
  rw [orOfIds, Option.isSome_or, Bool.or_eq_true]
  by_cases listed : id ∈ ids <;> simp [listed]

theorem orOfIds_of_isSome {id : String} (known : (look id).isSome) :
    orOfIds look type [id] = look := by
  funext v
  obtain ⟨n, hn⟩ := Option.isSome_iff_exists.1 known
  by_cases same : v = id
  · rw [orOfIds, same, hn, Option.some_or]
  · simp [orOfIds, same]

end Look

namespace Store

/-- A graph holds the nodes that a look-up finds, and some edges in the order they were added. -/
structure Holds (g : Store) (look : String → Option Node) (es : List Edge) : Prop where
  node?_eq : g.node? = look
  indexes : ∃ m, g.Indexes m ∧ m.edges = es

/-- Two graphs have the same nodes and, in whatever order, the same edges. -/
structure Alike (g h : Store) : Prop where
  node?_eq : ∀ id, g.node? id = h.node? id
  edges_perm : g.edges.Perm h.edges

variable {g h : Store} {look : String → Option Node} {es es' : List Edge}

theorem isSome_node?_iff {id : String} : (g.node? id).isSome ↔ id ∈ g.ids := Table.contains_iff

theorem ensureNode_of_mem {id type : String} (known : id ∈ g.ids) : g.ensureNode id type = g :=
  if_pos (contains_eq_true_iff.2 known)

theorem ensureNode_of_not_mem {id type : String} (new : id ∉ g.ids) :
    g.ensureNode id type = g.addNode (.ofId type id) :=
  if_neg (mt contains_eq_true_iff.1 new)

theorem mem_ids_ensureNode {id type v : String} :
    v ∈ (g.ensureNode id type).ids ↔ v ∈ g.ids ∨ v = id := by
  by_cases known : id ∈ g.ids
  · rw [ensureNode_of_mem known, iff_self_or]
    rintro rfl
    exact known
  · rw [ensureNode_of_not_mem known, mem_ids_addNode]
    rfl

namespace Holds

theorem mem_ids_iff (hg : g.Holds look es) {id : String} : id ∈ g.ids ↔ (look id).isSome := by
  rw [← isSome_node?_iff, hg.node?_eq]

theorem edges_perm (hg : g.Holds look es) : g.edges.Perm es := by
  obtain ⟨m, indexes, rfl⟩ := hg.indexes
  exact indexes.leaving.allEdges_perm

/-- The edges that leave a node, type by type. -/
theorem outgoing_eq (hg : g.Holds look es) (id : String) (types : List String) :
    g.outgoing id (some types) =
      types.eraseDups.flatMap fun t => es.filter fun e => e.source = id ∧ e.type = t := by
  obtain ⟨m, indexes, rfl⟩ := hg.indexes
  exact indexes.leaving.edgesAt_some id types

/-- The edges that reach a node, type by type. -/
theorem incoming_eq (hg : g.Holds look es) (id : String) (types : List String) :
    g.incoming id (some types) =
      types.eraseDups.flatMap fun t => es.filter fun e => e.target = id ∧ e.type = t := by
  obtain ⟨m, indexes, rfl⟩ := hg.indexes
  exact indexes.reaching.edgesAt_some id types

theorem of_empty : Store.empty.Holds (fun _ => none) [] := ⟨rfl, {}, .of_empty, rfl⟩

theorem addNode (hg : g.Holds look es) (n : Node) :
    (g.addNode n).Holds (fun id => if id = n.id then some n else look id) es where
  node?_eq := by
    funext id
    rw [← hg.node?_eq]
    exact Table.get?_insert ..
  indexes := by
    obtain ⟨m, indexes, same⟩ := hg.indexes
    exact ⟨_, indexes.addNode n, same⟩

theorem attach (hg : g.Holds look es) {e : Edge} (hs : e.source ∈ g.ids) (ht : e.target ∈ g.ids) :
    (g.attach e).Holds look (es ++ [e]) where
  node?_eq := hg.node?_eq
  indexes := by
    obtain ⟨m, indexes, same⟩ := hg.indexes
    exact ⟨_, indexes.attach hs ht, by rw [same]⟩

theorem ensureNode (hg : g.Holds look es) (id type : String) :
    (g.ensureNode id type).Holds (orOfIds look type [id]) es := by
  by_cases known : id ∈ g.ids
  · rw [ensureNode_of_mem known, orOfIds_of_isSome (hg.mem_ids_iff.1 known)]
    exact hg
  · have new : look id = none := by simpa using mt hg.mem_ids_iff.2 known
    have grown : orOfIds look type [id] =
        fun v => if v = id then some (.ofId type id) else look v := by
      funext v
      by_cases same : v = id <;> simp [orOfIds, same, new]
    rw [ensureNode_of_not_mem known, grown]
    exact hg.addNode (.ofId type id)

/-- When nodes are added one after the other, an id finds the last of them that has it. -/
theorem foldl_addNode (hg : g.Holds look es) (ns : List Node) :
    (ns.foldl Store.addNode g).Holds
      (fun id => (ns.reverse.find? fun n => n.id = id).or (look id)) es := by
  induction ns generalizing g look with
  | nil => exact hg
  | cons n ns ih =>
    have later := ih (hg.addNode n)
    have same (id : String) : ((n :: ns).reverse.find? fun n => n.id = id).or (look id) =
        (ns.reverse.find? fun n => n.id = id).or (if id = n.id then some n else look id) := by
      rw [List.reverse_cons, List.find?_append, Option.or_assoc, List.find?_singleton]
      by_cases own : n.id = id
      · simp [own]
      · simp [own, Ne.symm own]
    simp only [same]
    exact later

/-- Graphs that hold the same nodes and edges are alike. -/
theorem alike (hg : g.Holds look es) (hh : h.Holds look es') (same : es.Perm es') : g.Alike h where
  node?_eq := fun id => by rw [hg.node?_eq, hh.node?_eq]
  edges_perm := (hg.edges_perm.trans same).trans hh.edges_perm.symm

end Holds

end Store

/-! ## Edges that fit -/

/-- Whether two edges have the same ends and the same type. -/
def Edge.twin (e d : Edge) : Bool :=
  e.source == d.source && e.target == d.target && e.type == d.type

theorem Edge.twin_iff {e d : Edge} :
    e.twin d = true ↔ e.source = d.source ∧ e.target = d.target ∧ e.type = d.type := by
  simp [twin, and_assoc]

namespace Facts

/-- What an edge makes a node: its target if it is an import, else nothing. -/
def brings (e : Edge) : List String :=
  if EdgeType.importLike.contains e.type then [e.target] else []

/-- The ends of an edge are nodes when some ids are, and what the edge brings along. -/
def Fits (known : List String) (e : Edge) : Prop :=
  e.source ∈ known ++ brings e ∧ e.target ∈ known ++ brings e

instance (known : List String) (e : Edge) : Decidable (Fits known e) :=
  inferInstanceAs (Decidable (_ ∧ _))

/-- Edges that were looked at. -/
structure Sifted where
  /-- The edges to add. -/
  kept : List Edge := []
  /-- The edges to leave out. -/
  dropped : List Edge := []

/-- Tell the edges that fit from those that do not, where every edge leaves behind what it brings
along, also when it does not fit. -/
def sift : List String → List Edge → Sifted
  | _, [] => {}
  | known, e :: es =>
    let rest := sift (known ++ brings e) es
    if Fits known e then ⟨e :: rest.kept, rest.dropped⟩ else ⟨rest.kept, e :: rest.dropped⟩

variable {known known' : List String} {e : Edge} {es : List Edge}

theorem Fits.mono (h : Fits known e) (sub : ∀ id ∈ known, id ∈ known') : Fits known' e := by
  have grown : ∀ id ∈ known ++ brings e, id ∈ known' ++ brings e := fun id hid =>
    List.mem_append.2 ((List.mem_append.1 hid).imp_left (sub id))
  exact ⟨grown _ h.1, grown _ h.2⟩

theorem brings_of_twin {d : Edge} (h : e.twin d = true) : brings d = brings e := by
  obtain ⟨-, ht, hk⟩ := Edge.twin_iff.1 h
  rw [brings, brings, ht, hk]

/-- Whether an edge fits hangs on its ends and its type only. -/
theorem Fits.of_twin {d : Edge} (h : Fits known e) (twin : e.twin d = true) : Fits known d := by
  obtain ⟨hs, ht, -⟩ := Edge.twin_iff.1 twin
  rw [Fits, brings_of_twin twin, ← hs, ← ht]
  exact h

theorem sift_cons_of_fits (h : Fits known e) : sift known (e :: es) =
    ⟨e :: (sift (known ++ brings e) es).kept, (sift (known ++ brings e) es).dropped⟩ := by
  rw [sift, if_pos h]

theorem sift_cons_of_not_fits (h : ¬ Fits known e) : sift known (e :: es) =
    ⟨(sift (known ++ brings e) es).kept, e :: (sift (known ++ brings e) es).dropped⟩ := by
  rw [sift, if_neg h]

theorem kept_sublist (known : List String) (es : List Edge) : (sift known es).kept.Sublist es := by
  induction es generalizing known with
  | nil => exact .slnil
  | cons e es ih =>
    by_cases fits : Fits known e
    · rw [sift_cons_of_fits fits]
      exact (ih _).cons_cons e
    · rw [sift_cons_of_not_fits fits]
      exact (ih _).cons e

/-- Every edge is kept or dropped. -/
theorem mem_sift_iff (known : List String) (es : List Edge) {x : Edge} :
    x ∈ es ↔ x ∈ (sift known es).kept ∨ x ∈ (sift known es).dropped := by
  induction es generalizing known with
  | nil => simp [sift]
  | cons e es ih =>
    rw [List.mem_cons, ih (known ++ brings e)]
    by_cases fits : Fits known e
    · rw [sift_cons_of_fits fits, List.mem_cons, or_assoc]
    · rw [sift_cons_of_not_fits fits, List.mem_cons, or_left_comm]

/-- An edge that is dropped did not fit at first either. -/
theorem not_fits_of_mem_dropped {x : Edge} (hx : x ∈ (sift known es).dropped) :
    ¬ Fits known x := by
  induction es generalizing known with
  | nil => cases hx
  | cons e es ih =>
    have later (hx : x ∈ (sift (known ++ brings e) es).dropped) : ¬ Fits known x := fun fits =>
      ih hx (fits.mono fun _ => List.mem_append_left _)
    by_cases fits : Fits known e
    · rw [sift_cons_of_fits fits] at hx
      exact later hx
    · rw [sift_cons_of_not_fits fits] at hx
      rcases List.mem_cons.1 hx with rfl | hx
      · exact fits
      · exact later hx

/-- Edges of which none is dropped are all kept. -/
theorem kept_eq_self (h : (sift known es).dropped = []) : (sift known es).kept = es := by
  induction es generalizing known with
  | nil => rfl
  | cons e es ih =>
    by_cases fits : Fits known e
    · rw [sift_cons_of_fits fits] at h ⊢
      exact congrArg (e :: ·) (ih h)
    · rw [sift_cons_of_not_fits fits] at h
      cases h

/-! ## The rounds of a build -/

variable {b : Built} {look : String → Option Node} {old : List Edge}

theorem holds_admitImport {g : Store} (hg : g.Holds look old) (e : Edge) :
    (admitImport g e).Holds (orOfIds look NodeType.external (brings e)) old := by
  rw [admitImport, brings]
  split
  · exact hg.ensureNode e.target NodeType.external
  · rw [orOfIds_nil]
    exact hg

/-- The target of an import becomes a node. -/
theorem mem_ids_admitImport {g : Store} (hg : g.Holds look old) {e : Edge} {id : String} :
    id ∈ (admitImport g e).ids ↔ id ∈ g.ids ++ brings e := by
  rw [(holds_admitImport hg e).mem_ids_iff, List.mem_append, hg.mem_ids_iff, isSome_orOfIds_iff]

/-- What looking at one edge does. An edge that fits is added, whether edges may be left out or not.
An edge that does not fit is left out where that may be, and else refused. Either way it leaves
behind what it brings along. -/
theorem addEdge_cases (hb : b.graph.Holds look old) (same : ∀ id, id ∈ known ↔ id ∈ b.graph.ids)
    (e : Edge) :
    (Fits known e ∧ ∃ g : Store, (∀ skip, addEdge skip b e = .ok { b with graph := g }) ∧
      g.Holds (orOfIds look NodeType.external (brings e)) (old ++ [e]) ∧
      ∀ id, id ∈ known ++ brings e ↔ id ∈ g.ids) ∨
    (¬ Fits known e ∧ ∃ (g : Store) (m : MissingEnd),
      addEdge true b e = .ok ⟨g, b.dropped ++ [e]⟩ ∧ addEdge false b e = .error m ∧
      g.Holds (orOfIds look NodeType.external (brings e)) old ∧
      ∀ id, id ∈ known ++ brings e ↔ id ∈ g.ids) := by
  have admitted := holds_admitImport hb e
  have grown : ∀ id, id ∈ known ++ brings e ↔ id ∈ (admitImport b.graph e).ids := fun id => by
    rw [mem_ids_admitImport hb, List.mem_append, List.mem_append, same]
  cases missing : (admitImport b.graph e).missingEnd? e with
  | none =>
    have ends := Store.missingEnd?_eq_none_iff.1 missing
    refine .inl ⟨⟨(grown _).2 ends.1, (grown _).2 ends.2⟩, (admitImport b.graph e).attach e,
      fun skip => ?_, admitted.attach ends.1 ends.2, grown⟩
    rw [addEdge, Store.addEdge_eq_ok_iff.2 ⟨ends, rfl⟩]
  | some id =>
    have refused : (admitImport b.graph e).addEdge e = .error ⟨e, id⟩ := by
      rw [Store.addEdge, missing]
    refine .inr ⟨fun fits => ?_, admitImport b.graph e, ⟨e, id⟩, ?_, ?_, admitted, grown⟩
    · rw [Store.missingEnd?_eq_none_iff.2 ⟨(grown _).1 fits.1, (grown _).1 fits.2⟩] at missing
      cases missing
    · simp [addEdge, refused]
    · simp [addEdge, refused]

/-- The edges of the facts, as far as they fit, are added to a graph, and all that they bring along
becomes a node. -/
theorem foldlM_addEdge_true (es : List Edge) (hb : b.graph.Holds look old)
    (same : ∀ id, id ∈ known ↔ id ∈ b.graph.ids) :
    ∃ c, es.foldlM (addEdge true) b = .ok c ∧ c.dropped = b.dropped ++ (sift known es).dropped ∧
      c.graph.Holds (orOfIds look NodeType.external (es.flatMap brings))
        (old ++ (sift known es).kept) := by
  induction es generalizing b known look old with
  | nil => exact ⟨b, rfl, by simp [sift], by simpa [sift] using hb⟩
  | cons e es ih =>
    rw [List.foldlM_cons, List.flatMap_cons, ← orOfIds_append]
    rcases addEdge_cases hb same e with
      ⟨fits, g, step, holds, grown⟩ | ⟨fits, g, m, step, -, holds, grown⟩
    · obtain ⟨c, run, dropped, done⟩ := ih (b := { b with graph := g }) holds grown
      rw [step, sift_cons_of_fits fits]
      refine ⟨c, run, dropped, ?_⟩
      rwa [List.append_assoc] at done
    · obtain ⟨c, run, dropped, done⟩ := ih (b := ⟨g, b.dropped ++ [e]⟩) holds grown
      rw [step, sift_cons_of_not_fits fits]
      refine ⟨c, run, ?_, done⟩
      rw [dropped, List.append_assoc, List.singleton_append]

/-- Where no edge would be left out, it is the same whether edges may be; else some edge is
refused. -/
theorem foldlM_addEdge_false (es : List Edge) (hb : b.graph.Holds look old)
    (same : ∀ id, id ∈ known ↔ id ∈ b.graph.ids) :
    ((sift known es).dropped = [] →
      es.foldlM (addEdge false) b = es.foldlM (addEdge true) b) ∧
    ((sift known es).dropped ≠ [] → ∃ m, es.foldlM (addEdge false) b = .error m) := by
  induction es generalizing b known look old with
  | nil => simp [sift]
  | cons e es ih =>
    rw [List.foldlM_cons, List.foldlM_cons]
    rcases addEdge_cases hb same e with
      ⟨fits, g, step, holds, grown⟩ | ⟨fits, g, m, -, refused, -, -⟩
    · rw [step, step, sift_cons_of_fits fits]
      exact ih (b := { b with graph := g }) holds grown
    · rw [refused, sift_cons_of_not_fits fits]
      exact ⟨(nomatch ·), fun _ => ⟨m, rfl⟩⟩

end Facts

/-! ## Declared dependencies -/

/-- The edges to what a manifest declares. -/
def Manifest.edges (m : Manifest) : List Edge :=
  m.declared.map fun d => dependencyEdge m.name d.1 d.2

/-- The ids of what a manifest declares. -/
def Manifest.targets (m : Manifest) : List String := m.declared.map fun d => d.1.name

variable {look : String → Option Node} {old : List Edge}

/-- Dependencies of a node can be added, all of them. -/
theorem Store.Holds.declareFrom {g : Store} (hg : g.Holds look old) {repo : String}
    (node : repo ∈ g.ids) (ds : List (Dependency × String)) :
    ∃ h, Store.declareFrom repo g ds = (h, none) ∧
      h.Holds (orOfIds look NodeType.dependency (ds.map fun d => d.1.name))
        (old ++ ds.map fun d => Manifest.dependencyEdge repo d.1 d.2) := by
  induction ds generalizing g look old with
  | nil => exact ⟨g, rfl, by simpa using hg⟩
  | cons d ds ih =>
    obtain ⟨d, type⟩ := d
    have ensured := hg.ensureNode d.name NodeType.dependency
    have source : repo ∈ (g.ensureNode d.name NodeType.dependency).ids :=
      mem_ids_ensureNode.2 (.inl node)
    have target : d.name ∈ (g.ensureNode d.name NodeType.dependency).ids :=
      mem_ids_ensureNode.2 (.inr rfl)
    have added := Store.addEdge_eq_ok_iff (e := Manifest.dependencyEdge repo d type).2
      ⟨⟨source, target⟩, rfl⟩
    obtain ⟨h, run, done⟩ := ih (ensured.attach (e := Manifest.dependencyEdge repo d type)
      source target) source
    refine ⟨h, ?_, ?_⟩
    · rw [Store.declareFrom, added]
      exact run
    · rw [orOfIds_append, List.append_assoc] at done
      exact done

namespace Facts

/-- The manifests add their dependencies, and none of them is refused. -/
theorem foldlM_addDependencies {b : Built} (hb : b.graph.Holds look old) {ms : List Manifest}
    (nodes : ∀ m ∈ ms, m.name ∈ b.graph.ids) :
    ∃ c, ms.foldlM addDependencies b = .ok c ∧ c.dropped = b.dropped ∧
      c.graph.Holds (orOfIds look NodeType.dependency (ms.flatMap Manifest.targets))
        (old ++ ms.flatMap Manifest.edges) := by
  induction ms generalizing b look old with
  | nil => exact ⟨b, rfl, rfl, by simpa using hb⟩
  | cons m ms ih =>
    obtain ⟨g, run, holds⟩ := hb.declareFrom (nodes m (by simp)) m.declared
    have step : addDependencies b m = .ok { b with graph := g } := by
      rw [addDependencies, Store.declare, run]
    have later : ∀ n ∈ ms, n.name ∈ g.ids := fun n hn =>
      holds.mem_ids_iff.2 (isSome_orOfIds_iff.2
        (.inl (hb.mem_ids_iff.1 (nodes n (List.mem_cons_of_mem m hn)))))
    obtain ⟨c, rest, dropped, done⟩ := ih (b := { b with graph := g }) holds later
    refine ⟨c, ?_, dropped, ?_⟩
    · rw [List.foldlM_cons, step]
      exact rest
    · rw [orOfIds_append, List.append_assoc] at done
      exact done

/-! ## The whole build -/

/-- The edges of some facts, sifted over the ids that the facts declare. -/
def sifted (f : Facts) : Sifted := sift f.nodeGraph.ids f.edges

/-- The node with an id in the graph of some facts. What the facts declare comes first, then what
their edges import, then what their manifests depend on. -/
def finalNode? (f : Facts) : String → Option Node :=
  orOfIds (orOfIds f.nodeGraph.node? NodeType.external (f.edges.flatMap brings))
    NodeType.dependency (f.manifests.flatMap Manifest.targets)

/-- The edges in the graph of some facts: those that fit, and those that the manifests declare. -/
def finalEdges (f : Facts) : List Edge := f.sifted.kept ++ f.manifests.flatMap Manifest.edges

variable {f : Facts}

/-- The node that facts declare under an id is the last one, manifests after nodes. -/
theorem node?_nodeGraph (f : Facts) (id : String) : f.nodeGraph.node? id =
    ((f.manifests.map Manifest.node).reverse.find? fun n => n.id = id).or
      (f.nodes.reverse.find? fun n => n.id = id) := by
  have declared := Store.Holds.of_empty.foldl_addNode (f.nodes ++ f.manifests.map Manifest.node)
  have found := congrFun declared.node?_eq id
  simpa only [nodeGraph, Option.or_none, List.reverse_append, List.find?_append] using found

/-- Before the edges are looked at there are none. -/
theorem holds_nodeGraph (f : Facts) : f.nodeGraph.Holds f.nodeGraph.node? [] :=
  ⟨rfl, (Store.Holds.of_empty.foldl_addNode (f.nodes ++ f.manifests.map Manifest.node)).indexes⟩

/-- Manifests are nodes. -/
theorem name_mem_nodeGraph {m : Manifest} (hm : m ∈ f.manifests) : m.name ∈ f.nodeGraph.ids := by
  have listed : m.node ∈ (f.manifests.map Manifest.node).reverse :=
    List.mem_reverse.2 (List.mem_map_of_mem hm)
  rw [(holds_nodeGraph f).mem_ids_iff, node?_nodeGraph, Option.isSome_or, Bool.or_eq_true,
    List.find?_isSome]
  exact .inl ⟨m.node, listed, by simp [Manifest.node]⟩

/-- A build that may leave edges out is never refused. -/
theorem build_true (f : Facts) :
    ∃ b, f.build true = .ok b ∧ b.dropped = f.sifted.dropped ∧
      b.graph.Holds f.finalNode? f.finalEdges := by
  obtain ⟨b, edges, dropped, holds⟩ := foldlM_addEdge_true (b := ⟨f.nodeGraph, []⟩)
    f.edges (holds_nodeGraph f) fun _ => Iff.rfl
  have nodes : ∀ m ∈ f.manifests, m.name ∈ b.graph.ids := fun m hm =>
    holds.mem_ids_iff.2 (isSome_orOfIds_iff.2
      (.inl ((holds_nodeGraph f).mem_ids_iff.1 (name_mem_nodeGraph hm))))
  obtain ⟨c, manifests, same, done⟩ := foldlM_addDependencies holds nodes
  refine ⟨c, ?_, same.trans dropped, done⟩
  rw [build, edges]
  exact manifests

/-- Where no edge is left out, it is the same whether edges may be. -/
theorem build_false_of_nil (h : f.sifted.dropped = []) : f.build false = f.build true := by
  have same := (foldlM_addEdge_false (b := ⟨f.nodeGraph, []⟩) f.edges
    (holds_nodeGraph f) fun _ => Iff.rfl).1 h
  rw [build, build, same]

/-- A build that may not leave edges out is refused where one would be. -/
theorem build_false_of_ne_nil (h : f.sifted.dropped ≠ []) : ∃ m, f.build false = .error m := by
  obtain ⟨m, refused⟩ := (foldlM_addEdge_false (b := ⟨f.nodeGraph, []⟩) f.edges
    (holds_nodeGraph f) fun _ => Iff.rfl).2 h
  refine ⟨m, ?_⟩
  rw [build, refused]
  rfl

/-- A build that succeeds makes the final graph. If it may not leave edges out, it has left out
none. -/
theorem holds_of_build {skip : Bool} {b : Built} (h : f.build skip = .ok b) :
    b.graph.Holds f.finalNode? f.finalEdges ∧ b.dropped = f.sifted.dropped ∧
      (skip = false → f.sifted.dropped = []) := by
  obtain ⟨c, run, dropped, holds⟩ := build_true f
  cases skip with
  | true =>
    obtain rfl : c = b := Except.ok.inj (run.symm.trans h)
    exact ⟨holds, dropped, nofun⟩
  | false =>
    by_cases none : f.sifted.dropped = []
    · rw [build_false_of_nil none] at h
      obtain rfl : c = b := Except.ok.inj (run.symm.trans h)
      exact ⟨holds, dropped, fun _ => none⟩
    · obtain ⟨m, refused⟩ := build_false_of_ne_nil none
      rw [refused] at h
      cases h

end Facts

end CodeGraph

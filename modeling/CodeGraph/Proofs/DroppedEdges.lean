import CodeGraph.Proofs.Building

/-!
# Edges that are left out

A build may leave edges out. An edge that is left out is not in the graph, but if it is an import,
its target is: it stands there as an external node, and other edges may join it. So a build that
leaves edges out makes the graph of facts without these edges in which such targets are declared.

Main definitions:

- `Facts.eraseEdges`: facts without some edges;
- `Facts.withoutDropped`: the same, with the targets of imports among these edges declared.

Main statements:

- `eraseEach_dropped`: what is kept is what remains when the dropped edges are removed;
- `finalNode?_withoutDropped`, `finalEdges_withoutDropped`: the two sets of facts make one graph;
- `finalNode?_eraseEdges_iff`: when nothing needs to be declared;
- `build_withoutDropped`: the two builds.
-/
namespace CodeGraph

theorem Edge.twin_of_same {e d : Edge} (h : e.same d = true) : d.twin e = true := by
  obtain ⟨hs, ht, hk, -⟩ := Edge.same_iff.1 h
  exact Edge.twin_iff.2 ⟨hs.symm, ht.symm, hk.symm⟩

/-- An edge stays when no edge that is equal to it is removed. -/
theorem Multigraph.eraseEach_cons_of_not {e : Edge} {es gone : List Edge}
    (h : ∀ d ∈ gone, d.same e = false) : eraseEach (e :: es) gone = e :: eraseEach es gone := by
  induction gone generalizing es with
  | nil => rfl
  | cons d gone ih =>
    have other : ¬ d.same e = true := by simp [h d (by simp)]
    have rest : eraseEach (e :: es.eraseP d.same) gone = e :: eraseEach (es.eraseP d.same) gone :=
      ih fun x hx => h x (List.mem_cons_of_mem d hx)
    rw [eraseEach, List.foldl_cons, List.eraseP_cons_of_neg other]
    exact rest

namespace Facts

variable {known : List String} {es : List Edge}

/-- What is kept is what remains of a list when each dropped edge is removed from it once. Once an
edge is kept, equal ones are kept as well, so the first of several equal edges are the dropped
ones. -/
theorem eraseEach_dropped (known : List String) (es : List Edge) :
    Multigraph.eraseEach es (sift known es).dropped = (sift known es).kept := by
  induction es generalizing known with
  | nil => rfl
  | cons e es ih =>
    by_cases fits : Fits known e
    · rw [sift_cons_of_fits fits, Multigraph.eraseEach_cons_of_not, ih]
      intro d hd
      by_contra same
      have twin : e.twin d = true := Edge.twin_of_same (by simpa using same)
      exact not_fits_of_mem_dropped hd
        ((fits.of_twin twin).mono fun _ => List.mem_append_left _)
    · rw [sift_cons_of_not_fits fits, Multigraph.eraseEach, List.foldl_cons,
        List.eraseP_cons_of_pos e.same_refl]
      exact ih _

/-- The edges that are kept fit without the others, when what the others bring along is known. -/
theorem sift_kept (known' : List String) (grown : ∀ id ∈ known, id ∈ known')
    (brought : ∀ id ∈ (sift known es).dropped.flatMap brings, id ∈ known') :
    (sift known' (sift known es).kept).dropped = [] := by
  induction es generalizing known known' with
  | nil => rfl
  | cons e es ih =>
    by_cases fits : Fits known e
    · rw [sift_cons_of_fits fits] at brought ⊢
      rw [sift_cons_of_fits (fits.mono grown)]
      refine ih _ (fun id hid => ?_) fun id hid => List.mem_append_left _ (brought id hid)
      exact List.mem_append.2 ((List.mem_append.1 hid).imp_left (grown id))
    · rw [sift_cons_of_not_fits fits, List.flatMap_cons] at brought
      rw [sift_cons_of_not_fits fits]
      refine ih _ (fun id hid => ?_) fun id hid => brought id (List.mem_append_right _ hid)
      exact (List.mem_append.1 hid).elim (grown id) fun own =>
        brought id (List.mem_append_left _ own)

/-! ## Facts without edges -/

/-- Facts without some edges: one equal edge is removed for each edge of a list. -/
def eraseEdges (f : Facts) (gone : List Edge) : Facts :=
  { f with edges := Multigraph.eraseEach f.edges gone }

/-- Facts without some edges, where the targets of imports among these edges are declared as
external nodes unless they are declared already. -/
def withoutDropped (f : Facts) (dropped : List Edge) : Facts :=
  { f.eraseEdges dropped with
    nodes := f.nodes ++ ((dropped.flatMap brings).filter fun id => id ∉ f.nodeGraph.ids).map
      (Node.ofId NodeType.external) }

variable {f : Facts}

/-- Without the dropped edges those remain that are kept. -/
theorem edges_eraseEdges (f : Facts) : (f.eraseEdges f.sifted.dropped).edges = f.sifted.kept :=
  eraseEach_dropped f.nodeGraph.ids f.edges

/-- Of nodes that go by their ids, one is found under each id of the list. -/
theorem find?_map_ofId (type : String) (ids : List String) (id : String) :
    ((ids.map (Node.ofId type)).find? fun n => n.id = id) =
      if id ∈ ids then some (.ofId type id) else none := by
  induction ids with
  | nil => rfl
  | cons v ids ih =>
    rw [List.map_cons, List.find?_cons, ih]
    by_cases own : v = id
    · simp [own, Node.ofId]
    · simp [own, Ne.symm own, Node.ofId]

/-- What the dropped edges bring along is declared. -/
theorem node?_nodeGraph_withoutDropped (f : Facts) (dropped : List Edge) :
    (f.withoutDropped dropped).nodeGraph.node? =
      orOfIds f.nodeGraph.node? NodeType.external (dropped.flatMap brings) := by
  funext id
  have declared : id ∈ f.nodeGraph.ids ↔ (f.nodeGraph.node? id).isSome :=
    Store.isSome_node?_iff.symm
  have added := find?_map_ofId NodeType.external
    ((dropped.flatMap brings).filter fun id => id ∉ f.nodeGraph.ids).reverse id
  rw [List.map_reverse] at added
  rw [node?_nodeGraph f] at declared
  rw [orOfIds, node?_nodeGraph, node?_nodeGraph f]
  dsimp only [withoutDropped, eraseEdges]
  rw [List.reverse_append, List.find?_append, added]
  by_cases node : id ∈ f.nodeGraph.ids
  · -- what is declared already is not declared once more
    obtain ⟨n, found⟩ := Option.isSome_iff_exists.1 (declared.1 node)
    simp [node, found]
  · have absent := mt declared.2 node
    rw [Option.isSome_or, Bool.or_eq_true, not_or, Option.not_isSome_iff_eq_none,
      Option.not_isSome_iff_eq_none] at absent
    simp [node, absent.1, absent.2]

theorem mem_ids_withoutDropped {dropped : List Edge} {id : String} :
    id ∈ (f.withoutDropped dropped).nodeGraph.ids ↔
      id ∈ f.nodeGraph.ids ∨ id ∈ dropped.flatMap brings := by
  rw [← Store.isSome_node?_iff, node?_nodeGraph_withoutDropped, isSome_orOfIds_iff,
    Store.isSome_node?_iff]

/-- Without the dropped edges nothing is dropped. -/
theorem sifted_withoutDropped (f : Facts) :
    (f.withoutDropped f.sifted.dropped).sifted = ⟨f.sifted.kept, []⟩ := by
  have edges : (f.withoutDropped f.sifted.dropped).edges = f.sifted.kept := edges_eraseEdges f
  have none : (f.withoutDropped f.sifted.dropped).sifted.dropped = [] := by
    rw [sifted, edges]
    exact sift_kept _ (fun id hid => mem_ids_withoutDropped.2 (.inl hid))
      fun id hid => mem_ids_withoutDropped.2 (.inr hid)
  have all : (f.withoutDropped f.sifted.dropped).sifted.kept = f.sifted.kept := by
    rw [sifted, kept_eq_self none, edges]
  rw [← all, ← none]

theorem finalEdges_withoutDropped (f : Facts) :
    (f.withoutDropped f.sifted.dropped).finalEdges = f.finalEdges := by
  rw [finalEdges, sifted_withoutDropped]
  rfl

/-- Every import brings its target along, whether it is dropped or kept. -/
theorem mem_flatMap_sifted {id : String} :
    id ∈ f.sifted.dropped.flatMap brings ++ f.sifted.kept.flatMap brings ↔
      id ∈ f.edges.flatMap brings := by
  simp only [List.mem_append, List.mem_flatMap, mem_sift_iff f.nodeGraph.ids f.edges,
    sifted, or_and_right, exists_or]
  exact or_comm

theorem finalNode?_withoutDropped (f : Facts) :
    (f.withoutDropped f.sifted.dropped).finalNode? = f.finalNode? := by
  have edges : (f.withoutDropped f.sifted.dropped).edges = f.sifted.kept := edges_eraseEdges f
  rw [finalNode?, finalNode?, node?_nodeGraph_withoutDropped, edges, orOfIds_append,
    orOfIds_congr fun _ => mem_flatMap_sifted]
  rfl

/-! ## Facts without the dropped edges alone -/

/-- Nodes of a type for more ids make a difference, unless these are found anyway. Nodes of another
type that come later do not hide it. -/
theorem orOfIds_eq_iff {look : String → Option Node} {type other : String} (apart : type ≠ other)
    (ids more later : List String) :
    orOfIds (orOfIds look type ids) other later =
        orOfIds (orOfIds look type (more ++ ids)) other later ↔
      ∀ id ∈ more, (look id).isSome ∨ id ∈ ids := by
  rw [funext_iff]
  refine forall_congr' fun id => ?_
  have types_differ : Node.ofId type id ≠ Node.ofId other id := fun same =>
    apart (congrArg Node.type same)
  cases known : look id with
  | some n => simp [orOfIds, known]
  | none =>
    by_cases listed : id ∈ ids
    · simp [orOfIds, known, listed]
    · by_cases new : id ∈ more
      · by_cases after : id ∈ later <;> simp [orOfIds, known, listed, new, after, types_differ.symm]
      · simp [orOfIds, known, listed, new]

/-- The dropped edges leave no node behind when all that they bring along is declared, or brought
along by an edge that is kept. -/
theorem finalNode?_eraseEdges_iff (f : Facts) :
    (f.eraseEdges f.sifted.dropped).finalNode? = f.finalNode? ↔
      ∀ id ∈ f.sifted.dropped.flatMap brings,
        id ∈ f.nodeGraph.ids ∨ id ∈ f.sifted.kept.flatMap brings := by
  have apart : NodeType.external ≠ NodeType.dependency := by decide
  simp only [← Store.isSome_node?_iff]
  rw [← orOfIds_eq_iff apart _ _ (f.manifests.flatMap Manifest.targets), finalNode?, finalNode?,
    edges_eraseEdges, orOfIds_congr fun _ => mem_flatMap_sifted]
  rfl

/-- A build that may leave edges out succeeds and makes the graph of facts without the edges that it
left out, in which the undeclared targets of imports among these edges are declared as external
nodes. The build of those facts succeeds and has nothing to leave out. Both graphs list the edges at
each node in the same order. Facts without these edges, and with nothing declared instead, give that
graph exactly when the edges that are left fit without them, and all targets of imports among them
are declared or imported by an edge that is left. -/
theorem build_withoutDropped (f : Facts) :
    ∃ b c, f.build true = .ok b ∧ (f.withoutDropped b.dropped).build false = .ok c ∧
      c.dropped = [] ∧ b.graph.Alike c.graph ∧
      (∀ id types, b.graph.outgoing id (some types) = c.graph.outgoing id (some types)) ∧
      (∀ id types, b.graph.incoming id (some types) = c.graph.incoming id (some types)) ∧
      ((∃ d, (f.eraseEdges b.dropped).build false = .ok d ∧ b.graph.Alike d.graph) ↔
        (f.eraseEdges b.dropped).sifted.dropped = [] ∧
          ∀ id ∈ b.dropped.flatMap brings,
            id ∈ f.nodeGraph.ids ∨ id ∈ (f.eraseEdges b.dropped).edges.flatMap brings) := by
  obtain ⟨b, build, dropped, holds⟩ := build_true f
  obtain ⟨c, build', dropped', holds'⟩ := build_true (f.withoutDropped b.dropped)
  have none : (f.withoutDropped b.dropped).sifted.dropped = [] := by
    rw [dropped, sifted_withoutDropped]
  rw [dropped] at holds'
  rw [finalNode?_withoutDropped, finalEdges_withoutDropped] at holds'
  refine ⟨b, c, build, (build_false_of_nil none).trans build', dropped'.trans none,
    holds.alike holds' (.refl _), ?_, ?_, ?_⟩
  · exact fun id types => (holds.outgoing_eq id types).trans (holds'.outgoing_eq id types).symm
  · exact fun id types => (holds.incoming_eq id types).trans (holds'.incoming_eq id types).symm
  · rw [dropped, edges_eraseEdges, ← finalNode?_eraseEdges_iff]
    constructor
    · rintro ⟨d, strict, alike⟩
      obtain ⟨left, -, whole⟩ := holds_of_build strict
      refine ⟨whole rfl, funext fun id => ?_⟩
      rw [← left.node?_eq, ← holds.node?_eq, alike.node?_eq]
    · rintro ⟨fit, nodes⟩
      obtain ⟨d, lenient, -, left⟩ := build_true (f.eraseEdges f.sifted.dropped)
      have edges : (f.eraseEdges f.sifted.dropped).finalEdges = f.finalEdges := by
        have all := kept_eq_self fit
        rw [finalEdges, sifted, all, edges_eraseEdges]
        rfl
      rw [nodes, edges] at left
      exact ⟨d, (build_false_of_nil fit).trans lenient, holds.alike left (.refl _)⟩

/-- A module that is no node imports another one. -/
def ghostImport : Facts where
  nodes := [⟨"a", NodeType.function, "a", []⟩]
  edges := [⟨"ghost", "Ext", EdgeType.imports, []⟩]

/-- After that import, a function calls what it imports. -/
def ghostImportCall : Facts :=
  { ghostImport with edges := ghostImport.edges ++ [⟨"a", "Ext", EdgeType.calls, []⟩] }

/-- An import that is left out can leave its target behind. Without the import the target is not in
the graph, and where an edge joins the target, the build is refused. -/
theorem ghostImport_leaves_target :
    (∃ b c, ghostImport.build true = .ok b ∧
      (ghostImport.eraseEdges b.dropped).build false = .ok c ∧ ¬ b.graph.Alike c.graph) ∧
    (∃ b m, ghostImportCall.build true = .ok b ∧
      (ghostImportCall.eraseEdges b.dropped).build false = .error m) := by
  refine ⟨⟨_, _, rfl, rfl, fun alike => ?_⟩, ⟨_, _, rfl, rfl⟩⟩
  have found := congrArg Option.isSome (alike.node?_eq "Ext")
  exact absurd found (by decide)

end Facts

end CodeGraph

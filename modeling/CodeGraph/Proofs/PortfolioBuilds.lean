import CodeGraph.Proofs.DeclaredVersions

/-!
# Two builds of a portfolio

The graph of a portfolio is built of its manifests in two rounds: all repositories become nodes, and
then they declare their dependencies. A build of facts that are nothing but these manifests goes the
same way. Neither is ever refused an edge, since whoever declares something is a node by then, and
what is declared becomes one.

Main statements:

- `buildPortfolio_eq`: no dependency is refused;
- `allNodes_portfolioGraph`: the nodes are the repositories, and after them the packages;
- `portfolio_builds_agree`: what both builds make of the manifests.
-/
namespace CodeGraph

/-! ## Refused dependencies -/

variable {ms : List Manifest}

/-- A build of facts declares the dependencies of a manifest in the same way. -/
theorem Facts.addDependencies_eq (b : Built) (m : Manifest) :
    addDependencies b m = (b.graph.declareAll m).map fun g => { b with graph := g } := by
  unfold addDependencies Store.declareAll
  cases b.graph.declare m with
  | mk g refused => cases refused <;> rfl

/-- Manifests that a build of facts takes in are not refused. -/
theorem foldlM_declareAll {b c : Built} (h : ms.foldlM Facts.addDependencies b = .ok c) :
    ms.foldlM Store.declareAll b.graph = .ok c.graph := by
  induction ms generalizing b with
  | nil =>
    obtain rfl := Except.ok.inj h
    rfl
  | cons m ms ih =>
    rw [List.foldlM_cons, Facts.addDependencies_eq] at h
    rw [List.foldlM_cons]
    cases declared : b.graph.declareAll m with
    | error missing =>
      rw [declared] at h
      cases h
    | ok g =>
      rw [declared] at h
      exact ih h

/-- No dependency of a portfolio is refused. -/
theorem buildPortfolio_eq (ms : List Manifest) : buildPortfolio ms = .ok (portfolioGraph ms) := by
  have run : ms.foldlM Facts.addDependencies
      ⟨({ manifests := ms } : Facts).nodeGraph, []⟩ = .ok ⟨portfolioGraph ms, []⟩ :=
    build_manifests ms true
  exact foldlM_declareAll run

/-! ## Nodes and edges -/

/-- A manifest declares an edge for each of its dependencies. -/
theorem Manifest.length_edges (m : Manifest) :
    m.edges.length = m.dependencies.length + m.devDependencies.length := by
  rw [edges, List.length_map, declared, List.length_append, List.length_map, List.length_map]

namespace Store

variable {g : Store} {m : Multigraph}

/-- The type of a node is found under its id. -/
theorem Indexes.isOfType_iff (h : g.Indexes m) {n : Node} (hn : n ∈ g.allNodes) {type : String} :
    g.isOfType type n.id = true ↔ n.type = type := by
  rw [isOfType, h.node?_of_mem_allNodes hn, Option.any_some, beq_iff_eq]

/-- When nodes of one type come first and all others are of a second type, the nodes of the two
types make up the graph. -/
theorem allNodes_eq_append {front back : List Node} {first second : String} (apart : first ≠ second)
    (split : g.allNodes = front ++ back) (hf : ∀ n ∈ front, n.type = first)
    (hb : ∀ n ∈ back, n.type = second) :
    g.allNodes = g.nodesOfType first ++ g.nodesOfType second := by
  have all {ns : List Node} {type : String} (h : ∀ n ∈ ns, n.type = type) :
      (ns.filter fun n => n.type == type) = ns :=
    List.filter_eq_self.2 fun n hn => beq_iff_eq.2 (h n hn)
  have none {ns : List Node} {type other : String} (h : ∀ n ∈ ns, n.type = type)
      (different : type ≠ other) : (ns.filter fun n => n.type == other) = [] :=
    List.filter_eq_nil_iff.2 fun n hn same => different ((h n hn).symm.trans (beq_iff_eq.1 same))
  unfold nodesOfType
  rw [split, List.filter_append, List.filter_append, all hf, none hb apart.symm, none hf apart,
    all hb, List.append_nil, List.nil_append]

end Store

/-- The nodes of a portfolio are the repositories, and after them the packages. -/
theorem allNodes_portfolioGraph (ms : List Manifest) :
    (portfolioGraph ms).allNodes = (portfolioGraph ms).nodesOfType NodeType.repo ++
      (portfolioGraph ms).nodesOfType NodeType.dependency := by
  obtain ⟨m, indexes, -⟩ := (holds_portfolioGraph ms).indexes
  obtain ⟨packages, ids, others⟩ := ids_portfolioGraph ms
  rw [indexes.ids_eq_map_allNodes] at ids
  obtain ⟨front, back, split, named, later⟩ := List.map_eq_append_iff.1 ids
  have apart : NodeType.repo ≠ NodeType.dependency := by decide
  refine Store.allNodes_eq_append apart split ?_ ?_
  · intro n hn
    have listed : n ∈ (portfolioGraph ms).allNodes := split ▸ List.mem_append_left back hn
    have manifest : n.id ∈ ms.map Manifest.name :=
      List.mem_eraseDups.1 (named ▸ List.mem_map_of_mem hn)
    exact (indexes.isOfType_iff listed).1 (isRepo_portfolioGraph_iff.2 manifest)
  · intro n hn
    have listed : n ∈ (portfolioGraph ms).allNodes := split ▸ List.mem_append_right front hn
    have other : n.id ∉ ms.map Manifest.name := others n.id (later ▸ List.mem_map_of_mem hn)
    have node : n.id ∈ (portfolioGraph ms).ids := by
      rw [indexes.ids_eq_map_allNodes]
      exact List.mem_map_of_mem listed
    have declared := (mem_ids_portfolioGraph_iff.1 node).resolve_left other
    exact (indexes.isOfType_iff listed).1 (isOfType_dependency_iff.2 ⟨other, declared⟩)

/-- Both builds of a portfolio make the same graph. No dependency is refused, and a build of facts
that are nothing but the manifests leaves out nothing, whether it may or not. The graph has an edge
for each dependency that is declared, to run or for development. Its repositories are the names of
the manifests, each once and in their order; all other nodes are packages and come later. -/
theorem portfolio_builds_agree (ms : List Manifest) :
    buildPortfolio ms = .ok (portfolioGraph ms) ∧
    (∀ skip, ({ manifests := ms } : Facts).build skip = .ok ⟨portfolioGraph ms, []⟩) ∧
    (portfolioGraph ms).edgeCount =
      (ms.map fun m => m.dependencies.length + m.devDependencies.length).sum ∧
    (portfolioGraph ms).repos = (ms.map Manifest.name).eraseDups ∧
    (portfolioGraph ms).allNodes = (portfolioGraph ms).nodesOfType NodeType.repo ++
      (portfolioGraph ms).nodesOfType NodeType.dependency := by
  refine ⟨buildPortfolio_eq ms, build_manifests ms, ?_, repos_portfolioGraph ms,
    allNodes_portfolioGraph ms⟩
  obtain ⟨m, indexes, edges⟩ := (holds_portfolioGraph ms).indexes
  rw [indexes.edgeCount, edges, List.length_flatMap]
  simp only [Manifest.length_edges]

end CodeGraph

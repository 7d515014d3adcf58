import CodeGraph.Portfolio.Graph
import CodeGraph.Proofs.BuiltGraph
import CodeGraph.Proofs.TraversalLayers

/-!
# The graph of a portfolio

What the graph of a portfolio says about its manifests. The graph is what a build makes of the
manifests alone, so its nodes are the manifests and what they declare, and an edge leads from one
node to another exactly when a manifest of the first name declares the second. Whoever has an edge
is a repository.

Main definitions:

- `Manifest.needs`: the dependencies of a manifest, those for development on demand;
- `Declares`: a repository of a portfolio declares a dependency.

Main statements:

- `build_manifests`: the graph of a portfolio as a build of facts;
- `mem_ids_portfolioGraph_iff`, `isRepo_portfolioGraph_iff`, `isOfType_dependency_iff`,
  `mem_predecessors_portfolioGraph_iff`: its nodes, which of them are repositories and which are
  packages, and its edges;
- `exists_allDependents`: what depends on a node, directly or not.
-/
namespace CodeGraph

/-! ## Declared dependencies -/

/-- The dependencies that a manifest needs. Those for development only are counted when asked
for. -/
def Manifest.needs (m : Manifest) (includeDev : Bool) : List Dependency :=
  if includeDev then m.dependencies ++ m.devDependencies else m.dependencies

/-- A repository of a portfolio declares a repository or package. Manifests of one name declare
together. -/
def Declares (ms : List Manifest) (includeDev : Bool) (repo id : String) : Prop :=
  ∃ m ∈ ms, m.name = repo ∧ ∃ d ∈ m.needs includeDev, d.name = id

instance (ms : List Manifest) (includeDev : Bool) (repo id : String) :
    Decidable (Declares ms includeDev repo id) :=
  inferInstanceAs (Decidable (∃ m ∈ ms, m.name = repo ∧ ∃ d ∈ m.needs includeDev, d.name = id))

/-- The types of the edges to what is needed. -/
def EdgeType.needed (includeDev : Bool) : List String :=
  if includeDev then dependencyLike else [dependsOn]

section Declared

variable {ms : List Manifest} {includeDev : Bool} {repo id : String}

/-- More manifests declare more. -/
theorem Declares.append (h : Declares ms includeDev repo id) (xs : List Manifest) :
    Declares (ms ++ xs) includeDev repo id := by
  obtain ⟨m, hm, declared⟩ := h
  exact ⟨m, List.mem_append_left xs hm, declared⟩

theorem Manifest.needs_eq (m : Manifest) (includeDev : Bool) :
    m.needs includeDev = (EdgeType.needed includeDev).flatMap m.ofType := by
  have apart : EdgeType.devDependsOn ≠ EdgeType.dependsOn := by decide
  cases includeDev with
  | false => simp [needs, EdgeType.needed, ofType]
  | true => simp [needs, EdgeType.needed, EdgeType.dependencyLike, ofType, apart]

/-- Each dependency that a manifest declares is the end of one of its edges. -/
theorem Manifest.exists_edge_iff {m : Manifest} {types : List String} :
    (∃ e ∈ m.edges, e.target = id ∧ e.type ∈ types) ↔
      ∃ d ∈ types.flatMap m.ofType, d.name = id := by
  constructor
  · rintro ⟨e, he, rfl, selected⟩
    have typed : e ∈ m.edges.filter fun x => x.type = e.type :=
      List.mem_filter.2 ⟨he, decide_eq_true rfl⟩
    rw [filter_edges_type] at typed
    obtain ⟨d, hd, same⟩ := List.mem_map.1 typed
    exact ⟨d, List.mem_flatMap.2 ⟨e.type, selected, hd⟩, congrArg Edge.target same⟩
  · rintro ⟨d, hd, rfl⟩
    obtain ⟨type, selected, hd⟩ := List.mem_flatMap.1 hd
    have typed : ⟨m.name, d.name, type, d.versionMetadata⟩ ∈
        m.edges.filter fun e => e.type = type := by
      rw [filter_edges_type]
      exact List.mem_map_of_mem hd
    exact ⟨_, (List.mem_filter.1 typed).1, rfl, selected⟩

/-- The edges that a portfolio declares from one node to another. -/
theorem exists_edge_iff_declares :
    (∃ e ∈ ms.flatMap Manifest.edges, e.source = repo ∧ e.target = id ∧
      e.type ∈ EdgeType.needed includeDev) ↔ Declares ms includeDev repo id := by
  constructor
  · rintro ⟨e, he, rfl, selected⟩
    obtain ⟨m, hm, he⟩ := List.mem_flatMap.1 he
    have needed := Manifest.exists_edge_iff.1 ⟨e, he, selected⟩
    rw [← m.needs_eq] at needed
    exact ⟨m, hm, (Manifest.source_of_mem_edges he).symm, needed⟩
  · rintro ⟨m, hm, rfl, needed⟩
    rw [m.needs_eq] at needed
    obtain ⟨e, he, selected⟩ := Manifest.exists_edge_iff.2 needed
    exact ⟨e, List.mem_flatMap.2 ⟨m, hm, he⟩, Manifest.source_of_mem_edges he, selected⟩

end Declared

/-! ## Nodes and edges -/

section Graph

variable {ms : List Manifest} {includeDev : Bool} {repo id : String}

/-- Manifests that are not refused add their dependencies to the graph one after the other. -/
theorem Facts.graph_of_foldlM_addDependencies {b c : Built}
    (h : ms.foldlM addDependencies b = .ok c) :
    c.graph = ms.foldl (fun g m => (g.declare m).1) b.graph := by
  induction ms generalizing b with
  | nil =>
    obtain rfl := Except.ok.inj h
    rfl
  | cons m ms ih =>
    rw [List.foldlM_cons, addDependencies] at h
    rw [List.foldl_cons]
    cases declared : b.graph.declare m with
    | mk g refused =>
      rw [declared] at h
      cases refused with
      | none => exact ih h
      | some missing => cases h

/-- The graph of a portfolio is what a build makes of the manifests alone. -/
theorem build_manifests (ms : List Manifest) (skip : Bool) :
    ({ manifests := ms } : Facts).build skip = .ok ⟨portfolioGraph ms, []⟩ := by
  -- there are no edges that might be left out
  have either : ({ manifests := ms } : Facts).build skip =
      ({ manifests := ms } : Facts).build true := rfl
  obtain ⟨⟨graph, dropped⟩, run, none_dropped, -⟩ := Facts.build_true { manifests := ms }
  have nothing : dropped = [] := none_dropped
  have declared : graph = portfolioGraph ms := Facts.graph_of_foldlM_addDependencies run
  rw [either, run, nothing, declared]

/-- The graph of a portfolio holds the edges that its manifests declare. -/
theorem holds_portfolioGraph (ms : List Manifest) :
    (portfolioGraph ms).Holds (Facts.finalNode? { manifests := ms }) (ms.flatMap Manifest.edges) :=
  (Facts.holds_of_build (build_manifests ms true)).1

theorem mem_dependencyNames_iff :
    id ∈ Facts.dependencyNames { manifests := ms } ↔ ∃ repo, Declares ms true repo id := by
  rw [Facts.dependencyNames, List.mem_flatMap]
  constructor
  · rintro ⟨m, hm, named⟩
    exact ⟨m.name, m, hm, rfl, List.mem_map.1 named⟩
  · rintro ⟨-, m, hm, -, needed⟩
    exact ⟨m, hm, List.mem_map.2 needed⟩

/-- The nodes are the repositories and what they declare. -/
theorem mem_ids_portfolioGraph_iff :
    id ∈ (portfolioGraph ms).ids ↔
      id ∈ ms.map Manifest.name ∨ ∃ repo, Declares ms true repo id := by
  rw [(holds_portfolioGraph ms).mem_ids_iff, Facts.isSome_finalNode?_iff, mem_dependencyNames_iff]
  simp [Facts.importTargets]

/-- The repositories among the nodes are the manifests. -/
theorem isRepo_portfolioGraph_iff :
    (portfolioGraph ms).isRepo id = true ↔ id ∈ ms.map Manifest.name := by
  have apart : (NodeType.dependency == NodeType.repo) = false := by decide
  rw [Store.isRepo, Store.isOfType, (holds_portfolioGraph ms).node?_eq, Facts.finalNode?_eq]
  cases found : ms.reverse.find? fun m => m.name = id with
  | some m =>
    have named : m.name = id := by simpa using List.find?_some found
    have listed : m ∈ ms := List.mem_reverse.1 (List.mem_of_find?_eq_some found)
    exact ⟨fun _ => named ▸ List.mem_map_of_mem listed, fun _ => rfl⟩
  | none =>
    have absent : id ∉ ms.map Manifest.name := by
      intro named
      obtain ⟨m, hm, rfl⟩ := List.mem_map.1 named
      exact absurd (decide_eq_true rfl) (List.find?_eq_none.1 found m (List.mem_reverse.2 hm))
    refine ⟨fun repository => ?_, fun named => absurd named absent⟩
    by_cases declared : id ∈ (Facts.dependencyNames { manifests := ms }) <;>
      simp [Facts.importTargets, declared, Node.ofId, apart] at repository

/-- The other nodes are packages. -/
theorem isOfType_dependency_iff :
    (portfolioGraph ms).isOfType NodeType.dependency id = true ↔
      id ∉ ms.map Manifest.name ∧ ∃ repo, Declares ms true repo id := by
  have apart : (NodeType.repo == NodeType.dependency) = false := by decide
  by_cases repository : id ∈ ms.map Manifest.name
  · have typed := isRepo_portfolioGraph_iff.2 repository
    unfold Store.isRepo Store.isOfType at typed
    unfold Store.isOfType
    cases found : (portfolioGraph ms).node? id with
    | none => simp [repository]
    | some n =>
      simp only [found, Option.any_some, beq_iff_eq] at typed
      simp [repository, typed, apart]
  · have absent : (ms.reverse.find? fun m => m.name = id) = none := by
      apply List.find?_eq_none.2
      intro m hm named
      apply repository
      exact of_decide_eq_true named ▸ List.mem_map_of_mem (List.mem_reverse.1 hm)
    have node : (portfolioGraph ms).node? id =
        if id ∈ Facts.dependencyNames { manifests := ms } then
          some (.ofId NodeType.dependency id) else none := by
      rw [(holds_portfolioGraph ms).node?_eq, Facts.finalNode?_eq, absent]
      simp [Facts.importTargets]
    rw [Store.isOfType, node, ← mem_dependencyNames_iff]
    by_cases declared : id ∈ Facts.dependencyNames { manifests := ms }
    · simp [declared, repository, Node.ofId]
    · simp [declared]

/-- Whoever declares something is a repository. -/
theorem Declares.isRepo (h : Declares ms includeDev repo id) :
    (portfolioGraph ms).isRepo repo = true := by
  obtain ⟨m, hm, rfl, -⟩ := h
  exact isRepo_portfolioGraph_iff.2 (List.mem_map_of_mem hm)

/-- The edges lead from repositories to what they declare. -/
theorem mem_predecessors_portfolioGraph_iff :
    repo ∈ (portfolioGraph ms).predecessors id (some (EdgeType.needed includeDev)) ↔
      Declares ms includeDev repo id := by
  obtain ⟨m, indexes, edges⟩ := (holds_portfolioGraph ms).indexes
  rw [← exists_edge_iff_declares, ← edges, Store.predecessors, List.mem_map]
  refine exists_congr fun e => ?_
  rw [Store.incoming, indexes.reaching.mem_edgesAt]
  constructor
  · rintro ⟨⟨listed, target, selected⟩, source⟩
    exact ⟨listed, source, target, selected _ rfl⟩
  · rintro ⟨listed, source, target, selected⟩
    exact ⟨⟨listed, target, fun _ same => Option.some.inj same ▸ selected⟩, source⟩

/-! ## Dependents -/

/-- An edge that is followed backward leads from what is declared to whoever declares it. -/
theorem follows_portfolioGraph_incoming (ms : List Manifest) (includeDev : Bool) :
    Follows ((portfolioGraph ms).adjacent (some (EdgeType.needed includeDev)) .incoming) =
      Function.swap (Declares ms includeDev) := by
  funext id repo
  exact propext mem_predecessors_portfolioGraph_iff

/-- Following edges backward from a node leads to whoever depends on it. -/
theorem reaches_predecessors_iff :
    Reaches ((portfolioGraph ms).adjacent (some (EdgeType.needed includeDev)) .incoming) id repo ↔
      Relation.ReflTransGen (Declares ms includeDev) repo id := by
  rw [Reaches, follows_portfolioGraph_incoming, Relation.reflTransGen_swap]

/-- The dependents of a node are found, each once: all others from which declared dependencies lead
to the node. -/
theorem exists_allDependents (hid : id ∈ (portfolioGraph ms).ids) (includeDev : Bool) :
    ∃ found, (portfolioGraph ms).allDependents id includeDev = .ok found ∧ found.Nodup ∧
      ∀ repo, repo ∈ found ↔
        repo ≠ id ∧ Relation.TransGen (Declares ms includeDev) repo id := by
  obtain ⟨m, indexes, -⟩ := (holds_portfolioGraph ms).indexes
  obtain ⟨found, run, distinct, members⟩ := indexes.transitive_exact hid
    (some (EdgeType.needed includeDev)) .incoming
  refine ⟨found, run, distinct, fun repo => ?_⟩
  rw [members, reaches_predecessors_iff, Relation.reflTransGen_iff_eq_or_transGen]
  refine and_congr_right fun other => ?_
  exact ⟨fun path => path.resolve_left other.symm, .inr⟩

/-- Whoever depends on something, directly or not, is a repository. -/
theorem isRepo_of_transGen (h : Relation.TransGen (Declares ms includeDev) repo id) :
    (portfolioGraph ms).isRepo repo = true := by
  obtain ⟨next, declared, -⟩ := Relation.TransGen.head'_iff.1 h
  exact declared.isRepo

end Graph

end CodeGraph

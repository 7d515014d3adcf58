import CodeGraph.Proofs.Classes
import CodeGraph.Proofs.Consistency
import CodeGraph.Proofs.PortfolioGraph
import CodeGraph.Proofs.VersionConflicts
import Mathlib.Data.List.Perm.Basic

/-!
# Declared versions

The version constraints that a portfolio graph lists are those that its manifests declare, each as
often as it is declared. On their way through the graph they are sorted by repository, and within a
repository by the type of their edges, so manifests of one name are merged; when no two manifests
have one name, the order is that of the manifests.

Main definition:

- `Manifest.declarations`: the version constraints that a manifest declares.

Main statements:

- `ids_portfolioGraph`, `repos_portfolioGraph`: the repositories come first, in the order of the
  manifests;
- `declarations_portfolioGraph`: the declarations that the graph lists, in their order;
- `dependencyVersions_exact`: the constraints on each dependency.
-/
namespace CodeGraph

/-- Pairs of one key are made again from their other halves. -/
theorem map_pair_filter {α κ : Type} [DecidableEq κ] (k : κ) (ps : List (κ × α)) :
    ((ps.filter fun p => p.1 = k).map Prod.snd).map (fun a => (k, a)) =
      ps.filter fun p => p.1 = k := by
  rw [List.map_map]
  refine Eq.trans ?_ (List.map_id _)
  apply List.map_congr_left
  intro p hp
  have own : p.1 = k := of_decide_eq_true (List.mem_filter.1 hp).2
  exact Prod.ext own.symm rfl

/-! ## The order of the nodes -/

namespace Store

/-- Nodes stand in the order in which they first come. -/
theorem ids_foldl_addNode (ns : List Node) :
    (ns.foldl addNode empty).ids = (ns.map Node.id).eraseDups := by
  have grow (g : Store) (n : Node) :
      (g.addNode n).ids = if n.id ∈ g.ids then g.ids else g.ids ++ [n.id] := Table.keys_insert ..
  exact keysOf_foldl ids rfl grow ns

theorem ids_prefix_ensureNode (g : Store) (id type : String) :
    g.ids <+: (g.ensureNode id type).ids := by
  by_cases known : id ∈ g.ids
  · rw [ensureNode_of_mem known]
  · have grown : (g.addNode (.ofId type id)).ids =
        if id ∈ g.ids then g.ids else g.ids ++ [id] := Table.keys_insert ..
    rw [ensureNode_of_not_mem known, grown, if_neg known]
    exact List.prefix_append _ _

/-- What a repository declares comes after the nodes that are there. -/
theorem ids_prefix_declareFrom (repo : String) (g : Store) (ds : List (Dependency × String)) :
    g.ids <+: (declareFrom repo g ds).1.ids := by
  induction ds generalizing g with
  | nil => exact List.prefix_refl _
  | cons d ds ih =>
    obtain ⟨d, type⟩ := d
    have ensured := g.ids_prefix_ensureNode d.name NodeType.dependency
    unfold declareFrom
    cases added : (g.ensureNode d.name NodeType.dependency).addEdge
        (Manifest.dependencyEdge repo d type) with
    | error m => simpa only [added] using ensured
    | ok h =>
      obtain ⟨-, rfl⟩ := addEdge_eq_ok_iff.1 added
      have rest := ih ((g.ensureNode d.name NodeType.dependency).attach
        (Manifest.dependencyEdge repo d type))
      simp only [added]
      exact ensured.trans rest

theorem ids_prefix_foldl_declare (g : Store) (ms : List Manifest) :
    g.ids <+: (ms.foldl (fun g m => (g.declare m).1) g).ids := by
  induction ms generalizing g with
  | nil => exact List.prefix_refl _
  | cons m ms ih => exact (ids_prefix_declareFrom m.name g m.declared).trans (ih _)

end Store

/-- The repositories of a portfolio are nodes before its packages are, in the order of the
manifests. -/
theorem ids_portfolioGraph (ms : List Manifest) :
    ∃ packages, (portfolioGraph ms).ids = (ms.map Manifest.name).eraseDups ++ packages ∧
      ∀ id ∈ packages, id ∉ ms.map Manifest.name := by
  have first : ((ms.map Manifest.node).foldl Store.addNode .empty).ids =
      (ms.map Manifest.name).eraseDups := by
    rw [Store.ids_foldl_addNode, List.map_map]
    rfl
  obtain ⟨packages, ids⟩ : (ms.map Manifest.name).eraseDups <+: (portfolioGraph ms).ids := by
    rw [← first]
    exact Store.ids_prefix_foldl_declare _ ms
  have distinct : ((ms.map Manifest.name).eraseDups ++ packages).Nodup := by
    rw [ids]
    exact Table.nodup_keys' _
  refine ⟨packages, ids.symm, fun id later named => ?_⟩
  exact List.disjoint_of_nodup_append distinct (List.mem_eraseDups.2 named) later

/-- The repositories of a portfolio stand in the order of its manifests. -/
theorem repos_portfolioGraph (ms : List Manifest) :
    (portfolioGraph ms).repos = (ms.map Manifest.name).eraseDups := by
  obtain ⟨m, indexes, -⟩ := (holds_portfolioGraph ms).indexes
  obtain ⟨packages, ids, others⟩ := ids_portfolioGraph ms
  have front : ((ms.map Manifest.name).eraseDups.filter (portfolioGraph ms).isRepo) =
      (ms.map Manifest.name).eraseDups := by
    apply List.filter_eq_self.2
    intro id named
    exact isRepo_portfolioGraph_iff.2 (List.mem_eraseDups.1 named)
  have back : packages.filter (portfolioGraph ms).isRepo = [] := by
    apply List.filter_eq_nil_iff.2
    intro id later repository
    exact others id later (isRepo_portfolioGraph_iff.1 repository)
  have typed : (portfolioGraph ms).repos =
      (portfolioGraph ms).ids.filter (portfolioGraph ms).isRepo := indexes.map_id_nodesOfType _
  rw [typed, ids, List.filter_append, front, back, List.append_nil]

/-! ## Declarations -/

/-- The version constraint that a repository puts on a dependency, if it says anything. -/
def Dependency.declaredBy (d : Dependency) (repo : String) (dev : Bool) :
    Option (String × Declaration) :=
  (d.version.filter fun v => v ≠ "").map fun v => (d.name, ⟨repo, v, dev⟩)

namespace Manifest

/-- The version constraints that a manifest declares, with the names of what they constrain: those
to run, then those for development. -/
def declarations (m : Manifest) : List (String × Declaration) :=
  m.dependencies.filterMap (·.declaredBy m.name false) ++
    m.devDependencies.filterMap (·.declaredBy m.name true)

/-- The version constraints that a manifest declares with edges of a type. -/
def declarationsOf (m : Manifest) (type : String) : List (String × Declaration) :=
  (m.ofType type).filterMap (·.declaredBy m.name (type == EdgeType.devDependsOn))

theorem flatMap_declarationsOf (m : Manifest) :
    EdgeType.dependencyLike.flatMap m.declarationsOf = m.declarations := by
  have apart : EdgeType.devDependsOn ≠ EdgeType.dependsOn := by decide
  have runtime : (EdgeType.dependsOn == EdgeType.devDependsOn) = false := by decide
  simp [EdgeType.dependencyLike, declarationsOf, declarations, ofType, apart, runtime]

end Manifest

/-- An edge keeps the constraint that it was declared with. -/
theorem declaration?_versionMetadata (repo type : String) (d : Dependency) :
    ((Store.declaration? repo ⟨repo, d.name, type, d.versionMetadata⟩).map fun c => (d.name, c)) =
      d.declaredBy repo (type == EdgeType.devDependsOn) := by
  unfold Dependency.versionMetadata Dependency.declaredBy
  cases constraint : d.version.filter fun v => v ≠ "" with
  | none => rfl
  | some v =>
    have said : v ≠ "" := by
      obtain ⟨-, said⟩ := Option.filter_eq_some_iff.1 constraint
      exact of_decide_eq_true said
    have read : (Value.text v).isEmptyLike = false := by
      simpa [Value.isEmptyLike] using said
    unfold Store.declaration?
    show Option.map _ (if (Value.text v).isEmptyLike = true then none else _) = _
    rw [read]
    rfl

variable {ms : List Manifest}

/-- The declarations that the graph of a portfolio lists. They stand by their repositories, then by
the types of their edges, and then in the order of the manifests. -/
theorem declarations_portfolioGraph (ms : List Manifest) :
    (portfolioGraph ms).declarations =
      (ms.map Manifest.name).eraseDups.flatMap fun repo =>
        EdgeType.dependencyLike.flatMap fun type =>
          (ms.filter fun m => m.name = repo).flatMap fun m => m.declarationsOf type := by
  have types : EdgeType.dependencyLike.eraseDups = EdgeType.dependencyLike := by decide
  unfold Store.declarations
  rw [repos_portfolioGraph]
  apply List.flatMap_congr
  intro repo _
  rw [(holds_portfolioGraph ms).outgoing_eq, types, List.filterMap_flatMap]
  apply List.flatMap_congr
  intro type _
  rw [Manifest.filter_edges_source, List.filterMap_flatMap]
  apply List.flatMap_congr
  intro m hm
  have named : m.name = repo := of_decide_eq_true (List.mem_filter.1 hm).2
  unfold Manifest.declarationsOf
  rw [List.filterMap_map, ← named]
  apply List.filterMap_congr
  intro d _
  exact declaration?_versionMetadata m.name type d

/-- No declaration is lost on the way through the graph, and none comes in. -/
theorem declarations_portfolioGraph_perm (ms : List Manifest) :
    (portfolioGraph ms).declarations.Perm (ms.flatMap Manifest.declarations) := by
  have byName := (grouped_perm Manifest.name ms).flatMap_right Manifest.declarations
  rw [declarations_portfolioGraph]
  refine List.Perm.trans ?_ byName
  unfold grouped
  rw [List.flatMap_assoc]
  apply List.Perm.flatMap_left
  intro repo _
  -- manifests of one name are merged type by type
  have merged (ns : List Manifest) :
      (EdgeType.dependencyLike.flatMap fun type => ns.flatMap fun m => m.declarationsOf type).Perm
        (ns.flatMap Manifest.declarations) := by
    have split : ns.flatMap Manifest.declarations = ns.flatMap fun m =>
        m.declarationsOf EdgeType.dependsOn ++ m.declarationsOf EdgeType.devDependsOn := by
      apply List.flatMap_congr
      intro m _
      rw [← m.flatMap_declarationsOf]
      simp [EdgeType.dependencyLike]
    rw [split]
    simpa [EdgeType.dependencyLike] using List.flatMap_append_perm ns _ _
  exact merged _

/-- Under distinct names, the declarations stand in the order of the manifests. -/
theorem declarations_portfolioGraph_of_nodup (distinct : (ms.map Manifest.name).Nodup) :
    (portfolioGraph ms).declarations = ms.flatMap Manifest.declarations := by
  rw [declarations_portfolioGraph, eraseDups_of_nodup distinct, List.flatMap_map]
  apply List.flatMap_congr
  intro m hm
  simp only [filter_key_eq_singleton Manifest.name distinct hm, List.flatMap_singleton]
  exact m.flatMap_declarationsOf

/-! ## Constraints by dependency -/

/-- The version constraints that the manifests of a portfolio put on each dependency. All that they
declare is listed, under the names of the dependencies and as often as it is declared, and nothing
else. No dependency is listed twice, and none without a constraint. When no two manifests have one
name, the constraints on a dependency stand in the order of the manifests, in each of these with
those for development last. -/
theorem dependencyVersions_exact (ms : List Manifest) :
    let found := (portfolioGraph ms).dependencyVersions
    (found.flatMap fun v => v.declarations.map fun d => (v.dependency, d)).Perm
      (ms.flatMap Manifest.declarations) ∧
    (found.map DependencyVersions.dependency).Nodup ∧
    (∀ v ∈ found, v.declarations ≠ []) ∧
    ((ms.map Manifest.name).Nodup → ∀ v ∈ found, v.declarations =
      ((ms.flatMap Manifest.declarations).filter fun d => d.1 = v.dependency).map Prod.snd) := by
  dsimp only
  have keys : (Table.group (portfolioGraph ms).declarations).keys.Nodup := Table.nodup_keys' _
  have all := declarations_portfolioGraph_perm ms
  rw [Store.dependencyVersions_eq]
  refine ⟨?_, ?_, ?_, ?_⟩
  · refine List.Perm.trans ?_ ((grouped_perm Prod.fst _).trans all)
    unfold grouped
    rw [List.flatMap_map, Table.keys_group]
    apply List.Perm.of_eq
    apply List.flatMap_congr
    intro dependency _
    exact map_pair_filter dependency _
  · simpa [Function.comp_def] using keys
  · intro v hv
    obtain ⟨dependency, listed, rfl⟩ := List.mem_map.1 hv
    obtain ⟨d, hd, rfl⟩ := List.mem_map.1 (Table.mem_keys_group.1 listed)
    apply List.ne_nil_of_mem (a := d.2)
    exact List.mem_map_of_mem (List.mem_filter.2 ⟨hd, decide_eq_true rfl⟩)
  · intro distinct v hv
    obtain ⟨dependency, -, rfl⟩ := List.mem_map.1 hv
    rw [declarations_portfolioGraph_of_nodup distinct]

/-- A repository that comes in two manifests and declares one package in both ways, twice in one of
them, and another repository that is a dependency itself. -/
def mergedVersions : List Manifest :=
  [⟨"web", [⟨"json", some "1.0"⟩, ⟨"core", some "2"⟩, ⟨"json", some "1.1"⟩], [⟨"json", some "3"⟩],
      .null⟩,
    ⟨"core", [⟨"json", some ""⟩, ⟨"toml", none⟩], [⟨"json", some "^4"⟩], .null⟩,
    ⟨"web", [⟨"json", some "1.0"⟩], [⟨"core", some "latest"⟩], .null⟩]

/-- What the repository declares in both manifests is listed twice. When it has one manifest only,
its constraints on the package come in their order, before those of the other repository. -/
theorem dependencyVersions_exact_mergedVersions :
    ((portfolioGraph mergedVersions).dependencyVersions.flatMap fun v =>
      v.declarations.map fun d => (v.dependency, d)).count ("json", ⟨"web", "1.0", false⟩) = 2 ∧
    ∃ v ∈ (portfolioGraph (mergedVersions.take 2)).dependencyVersions, v.dependency = "json" ∧
      v.declarations = [⟨"web", "1.0", false⟩, ⟨"web", "1.1", false⟩, ⟨"web", "3", true⟩,
        ⟨"core", "^4", true⟩] := by
  constructor
  · obtain ⟨listed, -⟩ := dependencyVersions_exact mergedVersions
    rw [listed.count_eq]
    decide
  · obtain ⟨listed, -, -, ordered⟩ := dependencyVersions_exact (mergedVersions.take 2)
    have declared : ("json", ⟨"web", "3", true⟩) ∈
        (mergedVersions.take 2).flatMap Manifest.declarations := by decide
    obtain ⟨v, hv, pair⟩ := List.mem_flatMap.1 (listed.mem_iff.2 declared)
    obtain ⟨d, -, same⟩ := List.mem_map.1 pair
    have named : v.dependency = "json" := congrArg Prod.fst same
    refine ⟨v, hv, named, ?_⟩
    rw [ordered (by decide) v hv, named]
    decide

end CodeGraph

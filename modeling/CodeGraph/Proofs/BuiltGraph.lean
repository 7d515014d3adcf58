import CodeGraph.Proofs.Building

/-!
# The graph of some facts

What a strict build makes of facts, said without the rounds of the build: which ids are nodes, which
node stands under an id that comes up in several places, and which edges are found at a node, in
which order.

Main definitions:

- `Facts.importTargets`, `Facts.dependencyNames`: the ids that edges and manifests bring in;
- `Manifest.ofType`: the dependencies that a manifest declares with edges of a type.

Main statements:

- `Manifest.filter_edges_source`, `Manifest.filter_edges_target`: the edges that manifests declare,
  at either end;
- `Facts.build_exact`: the nodes and edges of a strict build.
-/
namespace CodeGraph

/-! ## The edges that manifests declare -/

/-- The metadata of an edge to a dependency: its version, unless that is empty or missing. -/
def Dependency.versionMetadata (d : Dependency) : Metadata :=
  (d.version.filter fun v => v ≠ "").toList.map fun v => (.text "version", .text v)

namespace Manifest

/-- The dependencies that a manifest declares with edges of a type. -/
def ofType (m : Manifest) (type : String) : List Dependency :=
  if type = EdgeType.dependsOn then m.dependencies
  else if type = EdgeType.devDependsOn then m.devDependencies
  else []

theorem dependencyEdge_eq (repo : String) (d : Dependency) (type : String) :
    dependencyEdge repo d type = ⟨repo, d.name, type, d.versionMetadata⟩ := by
  have nonempty (v : String) : (!v.isEmpty) = decide (v ≠ "") := by
    rw [Bool.eq_iff_iff, Bool.not_eq_true', decide_eq_true_eq, ← Bool.not_eq_true,
      String.isEmpty_iff]
  rw [dependencyEdge, Dependency.versionMetadata, Dependency.constraint?, funext nonempty]
  cases d.version.filter fun v => v ≠ "" <;> rfl

theorem source_of_mem_edges {m : Manifest} {e : Edge} (h : e ∈ m.edges) : e.source = m.name := by
  obtain ⟨d, -, rfl⟩ := List.mem_map.1 h
  rfl

theorem targets_eq (m : Manifest) :
    m.targets = (m.dependencies ++ m.devDependencies).map Dependency.name := by
  rw [targets, declared, List.map_append, List.map_append, List.map_map, List.map_map]
  rfl

/-- Of the edges that a manifest declares, those of a type are its dependencies of that type. -/
theorem filter_edges_type (m : Manifest) (type : String) :
    (m.edges.filter fun e => e.type = type) =
      (m.ofType type).map fun d => ⟨m.name, d.name, type, d.versionMetadata⟩ := by
  have part (ds : List Dependency) (own : String) :
      ((ds.map (·, own)).map fun d => dependencyEdge m.name d.1 d.2).filter
          (fun e => e.type = type) =
        if type = own then ds.map fun d => ⟨m.name, d.name, type, d.versionMetadata⟩ else [] := by
    rw [List.map_map]
    by_cases same : type = own
    · rw [if_pos same, same, List.filter_eq_self.2]
      · exact List.map_congr_left fun d _ => dependencyEdge_eq m.name d own
      · intro e he
        obtain ⟨d, -, rfl⟩ := List.mem_map.1 he
        exact decide_eq_true rfl
    · rw [if_neg same, List.filter_eq_nil_iff]
      intro e he
      obtain ⟨d, -, rfl⟩ := List.mem_map.1 he
      exact fun typed => same (of_decide_eq_true typed).symm
  have apart : EdgeType.dependsOn ≠ EdgeType.devDependsOn := by decide
  rw [edges, declared, List.map_append, List.filter_append, part, part, ofType]
  by_cases runtime : type = EdgeType.dependsOn
  · simp [runtime, apart]
  · by_cases dev : type = EdgeType.devDependsOn
    · simp [dev, apart.symm]
    · simp [runtime, dev]

variable (ms : List Manifest) (id type : String)

/-- The declared edges of a type that leave a node come from the manifests with its name. -/
theorem filter_edges_source :
    ((ms.flatMap edges).filter fun e => e.source = id ∧ e.type = type) =
      (ms.filter fun m => m.name = id).flatMap fun m =>
        (m.ofType type).map fun d => ⟨m.name, d.name, type, d.versionMetadata⟩ := by
  induction ms with
  | nil => rfl
  | cons m ms ih =>
    rw [List.flatMap_cons, List.filter_append, ih]
    by_cases named : m.name = id
    · have own : (m.edges.filter fun e => e.source = id ∧ e.type = type) =
          m.edges.filter fun e => e.type = type :=
        List.filter_congr fun e he => by simp [source_of_mem_edges he, named]
      rw [own, filter_edges_type, List.filter_cons_of_pos (by simpa using named),
        List.flatMap_cons]
    · have none : (m.edges.filter fun e => e.source = id ∧ e.type = type) = [] :=
        List.filter_eq_nil_iff.2 fun e he => by simp [source_of_mem_edges he, named]
      rw [none, List.filter_cons_of_neg (by simpa using named), List.nil_append]

/-- The declared edges of a type that reach a node come from the dependencies with its name. -/
theorem filter_edges_target :
    ((ms.flatMap edges).filter fun e => e.target = id ∧ e.type = type) =
      ms.flatMap fun m => ((m.ofType type).filter fun d => d.name = id).map fun d =>
        ⟨m.name, d.name, type, d.versionMetadata⟩ := by
  rw [List.filter_flatMap]
  congr 1
  funext m
  have both : (m.edges.filter fun e => e.target = id ∧ e.type = type) =
      (m.edges.filter fun e => e.type = type).filter fun e => e.target = id := by
    rw [List.filter_filter]
    exact List.filter_congr fun e _ => by simp
  rw [both, filter_edges_type, List.filter_map]
  rfl

end Manifest

/-! ## The whole graph -/

namespace Facts

/-- The targets of imports. -/
def importTargets (f : Facts) : List String :=
  (f.edges.filter fun e => e.type ∈ EdgeType.importLike).map Edge.target

/-- The names of what the manifests declare. -/
def dependencyNames (f : Facts) : List String :=
  f.manifests.flatMap fun m => (m.dependencies ++ m.devDependencies).map Dependency.name

variable {f : Facts} {b : Built} {id : String}

theorem mem_flatMap_brings_iff : id ∈ f.edges.flatMap brings ↔ id ∈ f.importTargets := by
  rw [List.mem_flatMap, importTargets, List.mem_map]
  refine exists_congr fun e => ?_
  rw [List.mem_filter, and_assoc]
  refine and_congr_right fun _ => ?_
  by_cases import_like : e.type ∈ EdgeType.importLike
  · rw [brings, if_pos (List.contains_iff_mem.2 import_like), List.mem_singleton]
    constructor
    · intro same
      exact ⟨decide_eq_true import_like, same.symm⟩
    · rintro ⟨-, same⟩
      exact same.symm
  · rw [brings, if_neg (mt List.contains_iff_mem.1 import_like)]
    constructor
    · intro nothing
      cases nothing
    · rintro ⟨found, -⟩
      exact absurd (of_decide_eq_true found) import_like

theorem flatMap_targets_eq (f : Facts) :
    f.manifests.flatMap Manifest.targets = f.dependencyNames :=
  congrArg (f.manifests.flatMap ·) (funext Manifest.targets_eq)

/-- The node under an id is that of the last manifest with this name, else the last one of the facts
with this id, else an external module if the id is imported, else a package if it is declared. -/
theorem finalNode?_eq (f : Facts) (id : String) :
    f.finalNode? id =
      ((f.manifests.reverse.find? fun m => m.name = id).map Manifest.node).or
        ((f.nodes.reverse.find? fun n => n.id = id).or
          (if id ∈ f.importTargets then some (.ofId NodeType.external id)
          else if id ∈ f.dependencyNames then some (.ofId NodeType.dependency id)
          else none)) := by
  have manifests : ((f.manifests.map Manifest.node).reverse.find? fun n => n.id = id) =
      (f.manifests.reverse.find? fun m => m.name = id).map Manifest.node := by
    rw [← List.map_reverse, List.find?_map]
    rfl
  rw [finalNode?, flatMap_targets_eq, orOfIds, orOfIds, node?_nodeGraph, manifests, Option.or_assoc,
    Option.or_assoc]
  by_cases imported : id ∈ f.importTargets
  · rw [if_pos (mem_flatMap_brings_iff.2 imported), if_pos imported, Option.some_or]
  · rw [if_neg (mt mem_flatMap_brings_iff.1 imported), if_neg imported, Option.none_or]

theorem isSome_finalNode?_iff : (f.finalNode? id).isSome ↔
    id ∈ f.nodes.map Node.id ∨ id ∈ f.manifests.map Manifest.name ∨
      id ∈ f.importTargets ∨ id ∈ f.dependencyNames := by
  have last {α : Type} (nameOf : α → String) (as : List α) :
      (as.reverse.find? fun a => nameOf a = id).isSome = true ↔ id ∈ as.map nameOf := by
    simp [List.find?_isSome]
  rw [finalNode?_eq, Option.isSome_or, Option.isSome_map, Option.isSome_or, Bool.or_eq_true,
    Bool.or_eq_true, last, last, or_left_comm]
  refine or_congr_right (or_congr_right ?_)
  by_cases imported : id ∈ f.importTargets <;> by_cases declared : id ∈ f.dependencyNames <;>
    simp [imported, declared]

/-- The graph that a strict build makes. Its nodes are the nodes and the manifests of the facts, the
targets of imports, and what the manifests declare. Under an id stands the repository of the last
manifest with this name, else the last node with this id, else an external module if it is imported,
else a package. The edges of a type that leave a node, or reach it, are those of the facts in their
order, and then those that the manifests declare in their order; these carry a version exactly when
one is declared that is not empty. -/
theorem build_exact (h : f.build false = .ok b) :
    (∀ id, id ∈ b.graph.ids ↔ id ∈ f.nodes.map Node.id ∨ id ∈ f.manifests.map Manifest.name ∨
      id ∈ f.importTargets ∨ id ∈ f.dependencyNames) ∧
    (∀ id, b.graph.node? id =
      ((f.manifests.reverse.find? fun m => m.name = id).map Manifest.node).or
        ((f.nodes.reverse.find? fun n => n.id = id).or
          (if id ∈ f.importTargets then some ⟨id, NodeType.external, id, []⟩
          else if id ∈ f.dependencyNames then some ⟨id, NodeType.dependency, id, []⟩
          else none))) ∧
    (∀ id type, b.graph.outgoing id (some [type]) =
      (f.edges.filter fun e => e.source = id ∧ e.type = type) ++
        (f.manifests.filter fun m => m.name = id).flatMap fun m =>
          (m.ofType type).map fun d => ⟨m.name, d.name, type, d.versionMetadata⟩) ∧
    (∀ id type, b.graph.incoming id (some [type]) =
      (f.edges.filter fun e => e.target = id ∧ e.type = type) ++
        f.manifests.flatMap fun m => ((m.ofType type).filter fun d => d.name = id).map fun d =>
          ⟨m.name, d.name, type, d.versionMetadata⟩) := by
  obtain ⟨holds, -, none_dropped⟩ := holds_of_build h
  have edges : f.finalEdges = f.edges ++ f.manifests.flatMap Manifest.edges :=
    congrArg (· ++ _) (kept_eq_self (none_dropped rfl))
  rw [edges] at holds
  refine ⟨fun id => ?_, fun id => ?_, fun id type => ?_, fun id type => ?_⟩
  · rw [holds.mem_ids_iff, isSome_finalNode?_iff]
  · rw [holds.node?_eq, finalNode?_eq]
    rfl
  · have one := holds.outgoing_eq id [type]
    rw [one]
    show List.flatMap _ [type] = _
    rw [List.flatMap_singleton, List.filter_append, Manifest.filter_edges_source]
  · have one := holds.incoming_eq id [type]
    rw [one]
    show List.flatMap _ [type] = _
    rw [List.flatMap_singleton, List.filter_append, Manifest.filter_edges_target]

/-- A repository and a module that come up in several places. -/
def overlapping : Facts where
  nodes := [⟨"core", "module", "core", []⟩, ⟨"util", "module", "first", []⟩,
    ⟨"util", "module", "second", []⟩, ⟨"app", "module", "app", []⟩]
  edges := [⟨"util", "json", EdgeType.imports, []⟩, ⟨"app", "util", EdgeType.dependsOn, []⟩]
  manifests := [⟨"app", [⟨"core", some "1.0"⟩, ⟨"json", some ""⟩], [⟨"test", none⟩], .null⟩,
    ⟨"core", [], [], .null⟩]

/-- The repository replaces the module, the second module the first, and what is imported is no
package. The dependencies of the repository come after the edge of the facts. -/
theorem build_exact_overlapping :
    ∃ b, overlapping.build false = .ok b ∧ b.graph.ids = ["core", "util", "app", "json", "test"] ∧
      b.graph.node? "core" = some ⟨"core", NodeType.repo, "core", []⟩ ∧
      b.graph.node? "util" = some ⟨"util", "module", "second", []⟩ ∧
      b.graph.node? "json" = some ⟨"json", NodeType.external, "json", []⟩ ∧
      b.graph.node? "test" = some ⟨"test", NodeType.dependency, "test", []⟩ ∧
      b.graph.outgoing "app" (some [EdgeType.dependsOn]) =
        [⟨"app", "util", EdgeType.dependsOn, []⟩,
          ⟨"app", "core", EdgeType.dependsOn, [(.text "version", .text "1.0")]⟩,
          ⟨"app", "json", EdgeType.dependsOn, []⟩] := by
  obtain ⟨b, build⟩ : ∃ b, overlapping.build false = .ok b := ⟨_, rfl⟩
  obtain ⟨-, node, leaving, -⟩ := build_exact build
  have ids : b.graph.ids = ["core", "util", "app", "json", "test"] := by
    obtain rfl := Except.ok.inj build
    decide
  exact ⟨b, build, ids, (node "core").trans rfl, (node "util").trans rfl, (node "json").trans rfl,
    (node "test").trans rfl, (leaving "app" EdgeType.dependsOn).trans rfl⟩

end Facts

end CodeGraph

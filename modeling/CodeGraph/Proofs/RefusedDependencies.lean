import CodeGraph.Proofs.Building
import CodeGraph.Proofs.Change
import CodeGraph.Proofs.RebuiltGraph

/-!
# Refused dependencies

What a manifest declares is added one dependency after the other, and the node of a dependency is
made before its edge is looked at. So a declaration that is refused may leave something behind. But
only the first edge can be refused: it leaves the repository, and once that is a node it stays one.
The repository may even become a node by the first dependency, when it declares itself. What is left
behind is then one node at most, and no edge.

Main definition:

- `Store.SameEdges`: two graphs have the same edges at the same nodes.

Main statements:

- `Store.sameEdges_ensureNode`, `Store.allNodes_ensureNode`: what becomes of a graph when an id is
  made a node;
- `Store.declareFrom_of_refused`, `Store.Holds.declareFrom_self`: the first of the dependencies;
- `Store.Reachable.declare_exact`: a declaration that is made, and one that is refused.
-/
namespace CodeGraph

/-- A node that comes in brings no edges. -/
theorem Adjacency.allEdges_insertNew (a : Adjacency) (id : String) :
    Adjacency.allEdges (Table.insertNew a id .empty) = a.allEdges := by
  unfold Table.insertNew
  split
  · rfl
  · next new =>
    have entries : (Table.insert a id .empty).entries = a.entries ++ [(id, .empty)] :=
      Table.insertEntry_of_not_mem (mt Table.contains_iff.2 new)
    unfold allEdges Table.values
    rw [entries, List.map_append, List.flatMap_append]
    exact List.append_nil _

namespace Store

/-! ## New nodes -/

/-- Two graphs have the same edges, and list them at the same nodes in the same order. -/
structure SameEdges (g h : Store) : Prop where
  edges : g.edges = h.edges
  outgoing : ∀ id types, g.outgoing id types = h.outgoing id types
  incoming : ∀ id types, g.incoming id types = h.incoming id types
  edgeCount : g.edgeCount = h.edgeCount

variable {g : Store} {type repo : String} {d : Dependency}
  {rest : List (Dependency × String)} {look : String → Option Node} {old : List Edge}

theorem sameEdges_addNode (g : Store) (n : Node) : (g.addNode n).SameEdges g where
  edges := Adjacency.allEdges_insertNew g.leaving n.id
  outgoing := fun id types =>
    congrArg (Buckets.select · types) (Adjacency.bucketsAt_insertNew g.leaving n.id id)
  incoming := fun id types =>
    congrArg (Buckets.select · types) (Adjacency.bucketsAt_insertNew g.reaching n.id id)
  edgeCount := rfl

/-- Edges stay where they are when an id is made a node. -/
theorem sameEdges_ensureNode (g : Store) (id type : String) :
    (g.ensureNode id type).SameEdges g := by
  by_cases known : id ∈ g.ids
  · rw [ensureNode_of_mem known]
    exact ⟨rfl, fun _ _ => rfl, fun _ _ => rfl, rfl⟩
  · rw [ensureNode_of_not_mem known]
    exact sameEdges_addNode g _

/-- An id that is made a node comes last, unless it was a node before. -/
theorem allNodes_ensureNode (g : Store) (id type : String) :
    (g.ensureNode id type).allNodes =
      g.allNodes ++ if id ∈ g.ids then [] else [.ofId type id] := by
  by_cases known : id ∈ g.ids
  · rw [ensureNode_of_mem known, if_pos known, List.append_nil]
  · have entries : (g.nodes.insert id (.ofId type id)).entries =
        g.nodes.entries ++ [(id, .ofId type id)] := Table.insertEntry_of_not_mem known
    rw [ensureNode_of_not_mem known, if_neg known]
    unfold allNodes addNode Table.values
    show (g.nodes.insert id (.ofId type id)).entries.map Prod.snd = _
    rw [entries, List.map_append]
    rfl

/-! ## The first dependency -/

/-- Without a node for the repository, the first dependency is refused. By then the dependency is a
node. -/
theorem declareFrom_of_refused (missing : repo ∉ g.ids) (other : repo ≠ d.name) :
    declareFrom repo g ((d, type) :: rest) =
      (g.ensureNode d.name NodeType.dependency,
        some ⟨Manifest.dependencyEdge repo d type, repo⟩) := by
  have absent : (g.ensureNode d.name NodeType.dependency).contains repo = false := by
    rw [← Bool.not_eq_true, contains_eq_true_iff, mem_ids_ensureNode]
    exact not_or.2 ⟨missing, other⟩
  have refused : (g.ensureNode d.name NodeType.dependency).addEdge
      (Manifest.dependencyEdge repo d type) =
        .error ⟨Manifest.dependencyEdge repo d type, repo⟩ := by
    unfold addEdge missingEnd?
    simp [Manifest.dependencyEdge, absent]
  rw [declareFrom, refused]

/-- The first dependency may be made a node beforehand. -/
theorem declareFrom_ensureNode :
    declareFrom repo (g.ensureNode d.name NodeType.dependency) ((d, type) :: rest) =
      declareFrom repo g ((d, type) :: rest) := by
  have node : d.name ∈ (g.ensureNode d.name NodeType.dependency).ids :=
    mem_ids_ensureNode.2 (.inr rfl)
  unfold declareFrom
  rw [ensureNode_of_mem node]

/-- A repository that declares itself first is a node from then on, so nothing is refused. -/
theorem Holds.declareFrom_self (hg : g.Holds look old) :
    ∃ h, Store.declareFrom d.name g ((d, type) :: rest) = (h, none) ∧
      h.Holds (orOfIds look NodeType.dependency (((d, type) :: rest).map fun d => d.1.name))
        (old ++ ((d, type) :: rest).map fun e => Manifest.dependencyEdge d.name e.1 e.2) := by
  have node : d.name ∈ (g.ensureNode d.name NodeType.dependency).ids :=
    mem_ids_ensureNode.2 (.inr rfl)
  obtain ⟨h, run, holds⟩ := (hg.ensureNode d.name NodeType.dependency).declareFrom node
    ((d, type) :: rest)
  rw [declareFrom_ensureNode] at run
  refine ⟨h, run, ?_⟩
  rw [orOfIds_append] at holds
  -- the id that is made a node beforehand is in the list anyway
  have twice (v : String) : v ∈ [d.name] ++ ((d, type) :: rest).map (fun d => d.1.name) ↔
      v ∈ ((d, type) :: rest).map fun d => d.1.name := by simp
  rw [orOfIds_congr twice] at holds
  exact holds

/-! ## Declarations -/

/-- What a manifest declares is added when its repository is a node, or declares itself first. -/
theorem Holds.declare (hg : g.Holds look old) {m : Manifest}
    (known : ∀ d type rest, m.declared = (d, type) :: rest → m.name ∈ g.ids ∨ m.name = d.name) :
    ∃ h, g.declare m = (h, none) ∧
      h.Holds (orOfIds look NodeType.dependency m.targets) (old ++ m.edges) := by
  by_cases node : m.name ∈ g.ids
  · exact hg.declareFrom node m.declared
  · unfold Store.declare Manifest.targets Manifest.edges
    cases declared : m.declared with
    | nil => exact ⟨g, rfl, by simpa using hg⟩
    | cons first rest =>
      obtain ⟨d, type⟩ := first
      have self := (known d type rest declared).resolve_left node
      rw [self]
      exact hg.declareFrom_self

/-- What becomes of a graph when a manifest declares its dependencies. Either all are added: one
edge for each of them, and a node for each that was none. Or the first is refused, because the
repository is no node and does not declare itself there. Then no edge was added, and no node either
but the dependency itself, if it was none. -/
theorem Reachable.declare_exact (h : g.Reachable) (m : Manifest) :
    (∃ k, g.declare m = (k, none) ∧ k.edges.Perm (g.edges ++ m.edges) ∧
      k.edgeCount = g.edgeCount + m.declared.length ∧
      k.node? = orOfIds g.node? NodeType.dependency m.targets) ∨
    ∃ d type rest k, m.declared = (d, type) :: rest ∧ m.name ∉ g.ids ∧ m.name ≠ d.name ∧
      g.declare m = (k, some ⟨Manifest.dependencyEdge m.name d type, m.name⟩) ∧
      k.SameEdges g ∧
      k.allNodes = g.allNodes ++
        if d.name ∈ g.ids then [] else [.ofId NodeType.dependency d.name] := by
  obtain ⟨log, indexes⟩ := h.indexes
  have holds : g.Holds g.node? log.edges := ⟨rfl, log, indexes, rfl⟩
  by_cases known : ∀ d type rest, m.declared = (d, type) :: rest →
      m.name ∈ g.ids ∨ m.name = d.name
  · obtain ⟨k, run, after⟩ := holds.declare known
    have perm : k.edges.Perm (g.edges ++ m.edges) :=
      after.edges_perm.trans (holds.edges_perm.symm.append_right _)
    obtain ⟨log', indexes', -⟩ := after.indexes
    refine .inl ⟨k, run, perm, ?_, after.node?_eq⟩
    rw [indexes'.consistent.edgeCount_edges, perm.length_eq, List.length_append,
      ← indexes.consistent.edgeCount_edges, Manifest.edges, List.length_map]
  · push Not at known
    obtain ⟨d, type, rest, declared, missing, other⟩ := known
    refine .inr ⟨d, type, rest, _, declared, missing, other, ?_, sameEdges_ensureNode g _ _,
      allNodes_ensureNode g _ _⟩
    unfold Store.declare
    rw [declared]
    exact declareFrom_of_refused missing other

/-- A repository that needs a package. -/
def bareApp : Manifest := ⟨"app", [⟨"lib", none⟩], [], .null⟩

/-- A repository that needs itself, and then a package. -/
def selfishApp : Manifest := ⟨"app", [⟨"app", none⟩, ⟨"lib", some "1.0"⟩], [], .null⟩

/-- In a graph without nodes, the package of a repository that is refused becomes a node, without an
edge. A repository that declares itself first is not refused there. -/
theorem Reachable.declare_exact_apps :
    empty.Reachable ∧
    (∃ k m, empty.declare bareApp = (k, some m) ∧ k.edges = [] ∧
      k.allNodes = [.ofId NodeType.dependency "lib"]) ∧
    ∃ k, empty.declare selfishApp = (k, none) ∧ k.edgeCount = 2 ∧
      k.node? "app" = some (.ofId NodeType.dependency "app") := by
  refine ⟨reachable_empty, ?_, ?_⟩
  · rcases reachable_empty.declare_exact bareApp with
      ⟨k, made, -⟩ | ⟨d, type, rest, k, declared, -, -, refused, same, nodes⟩
    · have none_refused : (empty.declare bareApp).2 = none := congrArg Prod.snd made
      have missing : (empty.declare bareApp).2.isSome = true := rfl
      rw [none_refused] at missing
      cases missing
    · obtain ⟨⟨rfl, -⟩, -⟩ : (⟨"lib", none⟩ = d ∧ _) ∧ _ := by
        simpa [bareApp, Manifest.declared] using declared
      exact ⟨k, _, refused, same.edges, nodes⟩
  · rcases reachable_empty.declare_exact selfishApp with
      ⟨k, made, -, count, nodes⟩ | ⟨d, type, rest, k, declared, -, other, -⟩
    · refine ⟨k, made, count, ?_⟩
      rw [nodes]
      rfl
    · obtain ⟨⟨rfl, -⟩, -⟩ : (⟨"app", none⟩ = d ∧ _) ∧ _ := by
        simpa [selfishApp, Manifest.declared] using declared
      exact absurd rfl other

/-- A declaration that is refused need not leave a graph as it was: the package is a node
afterwards. -/
theorem declare_bareApp_changes_nodes :
    empty.Reachable ∧ (empty.declare bareApp).2.map MissingEnd.missing = some "app" ∧
    empty.nodeCount = 0 ∧ (empty.declare bareApp).1.nodeCount = 1 ∧
    empty.node? "lib" = none ∧ ((empty.declare bareApp).1.node? "lib").isSome :=
  ⟨reachable_empty, rfl, rfl, rfl, rfl, rfl⟩

end Store

end CodeGraph

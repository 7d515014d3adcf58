import CodeGraph.Facts.Basic
import CodeGraph.Graph.Store

/-!
# Building graphs

A graph is built from facts in four rounds: the nodes, a node for each manifest, the edges, and the
dependencies that the manifests declare. So an edge may name nodes that stand anywhere in the facts.
The target of an import that nothing declares becomes an external node. Any other edge with an end
that is no node is refused, or left out when the caller asks for that.

Main definitions:

- `Facts.build`: the graph of some facts, with the edges that were left out;
- `Store.declare`: the dependencies of one manifest, as far as they can be added.
-/
namespace CodeGraph

namespace Manifest

/-- The repository that a manifest belongs to, as a node. -/
def node (m : Manifest) : Node where
  id := m.name
  type := NodeType.repo
  name := m.name
  metadata := if m.language.isEmptyLike then [] else [(.text "language", m.language)]

/-- The declared dependencies with the types of their edges: those needed to run come first. -/
def declared (m : Manifest) : List (Dependency × String) :=
  m.dependencies.map (·, EdgeType.dependsOn) ++ m.devDependencies.map (·, EdgeType.devDependsOn)

/-- The edge from a repository to one of its dependencies. It carries the version constraint. -/
def dependencyEdge (repo : String) (d : Dependency) (type : String) : Edge where
  source := repo
  target := d.name
  type := type
  metadata := match d.constraint? with
    | none => []
    | some v => [(.text "version", .text v)]

end Manifest

namespace Store

/-- Add a node of a type that goes by its id, unless the id is a node already. -/
def ensureNode (g : Store) (id type : String) : Store :=
  if g.contains id then g else g.addNode ⟨id, type, id, []⟩

/-- Add declared dependencies of a repository one after the other. A dependency that is no node
becomes one. At the first edge that cannot be added the rest is left, and what was added stays. -/
def declareFrom (repo : String) : Store → List (Dependency × String) → Store × Option MissingEnd
  | g, [] => (g, none)
  | g, (d, type) :: rest =>
    let g := g.ensureNode d.name NodeType.dependency
    match g.addEdge (Manifest.dependencyEdge repo d type) with
    | .ok h => declareFrom repo h rest
    | .error m => (g, some m)

/-- Add the dependencies that a manifest declares. -/
def declare (g : Store) (m : Manifest) : Store × Option MissingEnd :=
  declareFrom m.name g m.declared

end Store

/-- A graph with the edges that were left out when it was built. -/
structure Built where
  graph : Store
  dropped : List Edge := []

/-- What is said of an edge that was left out. -/
def Edge.dropMessage (e : Edge) : String :=
  "Dropping " ++ e.type ++ " edge " ++ e.source ++ " -> " ++ e.target

namespace Facts

/-- Make the target of an import a node. -/
def admitImport (g : Store) (e : Edge) : Store :=
  if EdgeType.importLike.contains e.type then g.ensureNode e.target NodeType.external else g

/-- Add one edge of the facts. An edge with a missing end is refused, or left out. -/
def addEdge (skipDangling : Bool) (b : Built) (e : Edge) : Except MissingEnd Built :=
  let g := admitImport b.graph e
  match g.addEdge e with
  | .ok h => .ok { b with graph := h }
  | .error m => if skipDangling then .ok ⟨g, b.dropped ++ [e]⟩ else .error m

/-- Add the dependencies of one manifest of the facts. -/
def addDependencies (b : Built) (m : Manifest) : Except MissingEnd Built :=
  match b.graph.declare m with
  | (g, none) => .ok { b with graph := g }
  | (_, some missing) => .error missing

/-- The nodes of the facts and of their manifests, as a graph without edges. -/
def nodeGraph (f : Facts) : Store :=
  (f.nodes ++ f.manifests.map Manifest.node).foldl Store.addNode .empty

/-- The graph of some facts. -/
def build (f : Facts) (skipDangling : Bool := false) : Except MissingEnd Built := do
  let b ← f.edges.foldlM (addEdge skipDangling) ⟨f.nodeGraph, []⟩
  f.manifests.foldlM addDependencies b

end Facts

end CodeGraph

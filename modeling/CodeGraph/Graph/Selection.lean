import CodeGraph.Graph.Store

/-!
# Selections

An analysis ranges over the nodes of some types and follows the edges of some types between them.
-/
namespace CodeGraph

/-- Node types and edge types; none of a kind given means all of that kind. -/
structure Selection where
  nodeTypes : Option (List String)
  edgeTypes : Option (List String)
  deriving DecidableEq, Repr

namespace Selection

/-- Functions and the calls between them. -/
def callGraph : Selection := ⟨some [NodeType.function], some [EdgeType.calls]⟩

/-- Repositories and the dependencies between them. -/
def repoGraph : Selection := ⟨some [NodeType.repo], some EdgeType.dependencyLike⟩

end Selection

namespace Store

/-- The ends of the edges of some types that leave a node, as far as they are members. -/
def successors (g : Store) (types : Option (List String)) (members : Option (List String))
    (id : String) : List String :=
  match members with
  | none => g.neighbors id types
  | some ms => (g.neighbors id types).filter ms.contains

/-- The nodes of a selection, oldest first. -/
def selected (g : Store) (s : Selection) : List String := g.scope s.nodeTypes

/-- The successors of a node inside a selection. -/
def selectedSuccessors (g : Store) (s : Selection) (id : String) : List String :=
  g.successors s.edgeTypes (some (g.selected s)) id

/-- The number of edges of a selection. -/
def selectedEdgeCount (g : Store) (s : Selection) : Nat :=
  (g.selected s).foldl (fun n id => n + (g.selectedSuccessors s id).length) 0

end Store

end CodeGraph

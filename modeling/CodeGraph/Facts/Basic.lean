import CodeGraph.Graph.Record
import CodeGraph.Manifest.Basic

/-!
# Facts

The facts from which a graph is built: nodes and edges as a parser of source code finds them, and
the manifests of repositories.
-/
namespace CodeGraph

/-- What is known before a graph is built. -/
structure Facts where
  nodes : List Node := []
  edges : List Edge := []
  manifests : List Manifest := []
  deriving Repr, Inhabited

namespace Facts

/-- The members of the list under a name, each read by a reader; an absent list has none. -/
def readList {α : Type} (reader : Value → Except Fault α) (name : String) (v : Value) :
    Except Fault (List α) := do
  let listed ← v.get name
  let members ← (listed.orElse (.list [])).elements
  members.mapM reader

/-- The facts that a value describes. -/
def ofValue (v : Value) : Except Fault Facts := do
  let nodes ← readList Node.ofValue "nodes" v
  let edges ← readList Edge.ofValue "edges" v
  let manifests ← readList Manifest.ofValue "manifests" v
  return ⟨nodes, edges, manifests⟩

/-- Facts as a value. -/
def toValue (f : Facts) : Value :=
  .record [("nodes", .list (f.nodes.map Node.toValue)),
    ("edges", .list (f.edges.map Edge.toValue)),
    ("manifests", .list (f.manifests.map Manifest.toValue))]

end Facts

end CodeGraph

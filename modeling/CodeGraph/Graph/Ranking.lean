import CodeGraph.Graph.Selection

/-!
# Calls at a node

Functions that nothing calls, functions that call nothing, and the functions with the most calls.
-/
namespace CodeGraph

/-- A node with the number of calls that leave or reach it. -/
structure RankedNode where
  id : String
  name : String
  connectivity : Nat
  deriving DecidableEq, Repr

/-- Whether a ranked node comes before another: by more calls, then by the smaller id. -/
def RankedNode.before (a b : RankedNode) : Bool :=
  b.connectivity < a.connectivity || (a.connectivity == b.connectivity && a.id ≤ b.id)

/-- A ranked node as a value. -/
def RankedNode.toValue (r : RankedNode) : Value :=
  .record [("id", .text r.id), ("name", .text r.name), ("connectivity", .int r.connectivity)]

/-- The number of functions in a ranking unless more are asked for. -/
def defaultRankingSize : Int := 5

/-- The members of a list up to an end, which counts from the back when it is negative. -/
def takeUpTo {α : Type} (xs : List α) (stop : Int) : List α :=
  if 0 ≤ stop then xs.take stop.toNat else xs.take (xs.length + stop).toNat

namespace Store

/-- The ids of the nodes of some types that no call reaches. -/
def entryPoints (g : Store) (nodeTypes : Option (List String) := some [NodeType.function]) :
    List String :=
  (g.scope nodeTypes).filter fun id => g.inDegree id (some [EdgeType.calls]) == 0

/-- The ids of the nodes of some types that no call leaves. -/
def leafFunctions (g : Store) (nodeTypes : Option (List String) := some [NodeType.function]) :
    List String :=
  (g.scope nodeTypes).filter fun id => g.outDegree id (some [EdgeType.calls]) == 0

/-- A node with its number of calls. -/
def rank (g : Store) (id : String) : RankedNode :=
  { id := id
    name := ((g.node? id).map (·.name)).getD id
    connectivity :=
      g.inDegree id (some [EdgeType.calls]) + g.outDegree id (some [EdgeType.calls]) }

/-- The nodes of some types with the most calls, the most first, up to an end. -/
def mostConnected (g : Store) (limit : Int := defaultRankingSize)
    (nodeTypes : Option (List String) := some [NodeType.function]) : List RankedNode :=
  takeUpTo (((g.scope nodeTypes).map g.rank).mergeSort RankedNode.before) limit

end Store

end CodeGraph

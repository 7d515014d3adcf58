import CodeGraph.Graph.Search

/-!
# Shortest paths

A path is given by its nodes, the first and the last included. The path from a node to itself has no
edges.
-/
namespace CodeGraph

/-- The number of edges that a path may have unless more are asked for. -/
def defaultMaxHops : Int := 10

namespace Store

/-- A shortest path of at most so many edges of some types. -/
def shortestPath (g : Store) (source target : String) (maxHops : Option Int := some defaultMaxHops)
    (types : Option (List String) := none) : Except Failure (List String) :=
  if !g.contains source then .error (.nodeNotFound source)
  else if !g.contains target then .error (.nodeNotFound target)
  else if source = target then .ok [source]
  else
    match Search.wayTo? (fun id => g.neighbors id types) maxHops source target g.nodeCount with
    | some way => .ok (way ++ [target])
    | none => .error (.noPath source target maxHops)

/-- A shortest chain of calls from one function to another. -/
def callChain (g : Store) (source target : String) (maxHops : Option Int := some defaultMaxHops) :
    Except Failure (List String) :=
  g.shortestPath source target maxHops (some [EdgeType.calls])

end Store

end CodeGraph

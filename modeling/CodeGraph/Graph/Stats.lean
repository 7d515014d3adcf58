import CodeGraph.Graph.Store

/-!
# Counts

How many nodes and edges a graph has, in all and of each type. Types stand in the order in which
they first come up.
-/
namespace CodeGraph

/-- The counts of a graph. -/
structure Stats where
  nodeCount : Nat
  edgeCount : Nat
  nodesByType : Table String Nat
  edgesByType : Table String Nat

/-- A table of counts as a value. -/
def countsValue (t : Table String Nat) : Value :=
  .record (t.entries.map fun e => (e.1, .int e.2))

/-- The counts of a graph as entries of an object. -/
def Stats.entries (s : Stats) : List (String × Value) :=
  [("node_count", .int s.nodeCount), ("edge_count", .int s.edgeCount),
    ("nodes_by_type", countsValue s.nodesByType), ("edges_by_type", countsValue s.edgesByType)]

/-- The counts of a graph as a value. -/
def Stats.toValue (s : Stats) : Value := .record s.entries

/-- The counts of a graph. -/
def Store.stats (g : Store) : Stats where
  nodeCount := g.nodeCount
  edgeCount := g.edgeCount
  nodesByType := Table.tally (g.allNodes.map (·.type))
  edgesByType := Table.tally (g.edges.map (·.type))

end CodeGraph

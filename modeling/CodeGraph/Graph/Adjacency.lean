import CodeGraph.Graph.Record
import CodeGraph.Table

/-!
# Adjacency

An adjacency lists the edges at each node, in a bucket for each edge type. A graph keeps two: the
edges that leave a node and the edges that reach it. Buckets stand in the order their types first
came up at the node, and stay when they run empty; edges stand in the order they were added.

Main statements:

- `keys_add`, `keys_remove`: which nodes an adjacency knows after a change.
-/
namespace CodeGraph

/-- The edges at one node by type. -/
abbrev Buckets := Table String (List Edge)

/-- The edges at every node by type. -/
abbrev Adjacency := Table String Buckets

namespace Buckets

/-- The edges of one type. -/
def ofType (b : Buckets) (type : String) : List Edge := (b.get? type).getD []

/-- The edges of some types, each type once and in the order given; of all types when there is no
selection. -/
def select (b : Buckets) : Option (List String) → List Edge
  | none => b.values.flatten
  | some types => types.eraseDups.flatMap b.ofType

end Buckets

namespace Adjacency

/-- The buckets at a node. -/
def bucketsAt (a : Adjacency) (id : String) : Buckets := (a.get? id).getD .empty

/-- The edges at a node, of some types or of all. -/
def edgesAt (a : Adjacency) (id : String) (types : Option (List String)) : List Edge :=
  (a.bucketsAt id).select types

/-- All edges, node by node. -/
def allEdges (a : Adjacency) : List Edge := a.values.flatMap fun b => b.values.flatten

/-- Put an edge at the end of its bucket at a node. -/
def add (a : Adjacency) (id : String) (e : Edge) : Adjacency :=
  a.insert id ((a.bucketsAt id).insert e.type ((a.bucketsAt id).ofType e.type ++ [e]))

/-- Take the first edge equal to a given one out of its bucket at a node. -/
def remove (a : Adjacency) (id : String) (e : Edge) : Adjacency :=
  a.insert id ((a.bucketsAt id).insert e.type (((a.bucketsAt id).ofType e.type).eraseP e.same))

theorem keys_add {a : Adjacency} {id : String} (h : id ∈ a.keys) (e : Edge) :
    (a.add id e).keys = a.keys := by
  rw [add, Table.keys_insert, if_pos h]

theorem keys_remove {a : Adjacency} {id : String} (h : id ∈ a.keys) (e : Edge) :
    (a.remove id e).keys = a.keys := by
  rw [remove, Table.keys_insert, if_pos h]

end Adjacency

end CodeGraph

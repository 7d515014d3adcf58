import CodeGraph.Graph.Adjacency

/-!
# The graph store

A directed multigraph of typed nodes and edges. Edges are kept at both of their ends, so that they
can be followed forward and backward. Nodes stand in the order they were first added; a node that is
added again replaces the old record and keeps its place and its edges.

Main definitions:

- `Store.addNode`, `addEdge`, `removeEdge`, `removeNode`: the changes;
- `Store.outgoing`, `incoming`, `neighbors`, `predecessors`: the edges at a node, for some edge
  types or for all of them.

Main statements:

- `addEdge_eq_ok_iff`: an edge is added exactly when both of its ends are nodes;
- `mem_ids_addNode`: adding a node adds nothing but that node.
-/
namespace CodeGraph

/-- A graph of typed nodes and edges. -/
structure Store where
  /-- The nodes by id. -/
  nodes : Table String Node := .empty
  /-- The edges that leave each node. -/
  leaving : Adjacency := .empty
  /-- The edges that reach each node. -/
  reaching : Adjacency := .empty
  /-- The number of edges. -/
  edgeCount : Nat := 0

/-- An edge that cannot be added because one of its ends is not a node. -/
structure MissingEnd where
  edge : Edge
  missing : String
  deriving Repr

/-- The message of a missing end. -/
def MissingEnd.message (m : MissingEnd) : String :=
  "Cannot add " ++ m.edge.type ++ " edge " ++ m.edge.source ++ " -> " ++ m.edge.target ++
    ": node not found: " ++ m.missing

namespace Store

/-- The graph without nodes. -/
def empty : Store := {}

instance : Inhabited Store := ⟨empty⟩

/-- Whether an id is a node. -/
def contains (g : Store) (id : String) : Bool := g.nodes.contains id

/-- The node with an id. -/
def node? (g : Store) (id : String) : Option Node := g.nodes.get? id

/-- The ids of all nodes, oldest first. -/
def ids (g : Store) : List String := g.nodes.keys

/-- All nodes, oldest first. -/
def allNodes (g : Store) : List Node := g.nodes.values

/-- The number of nodes. -/
def nodeCount (g : Store) : Nat := g.nodes.size

/-- Add a node, or replace the node with its id. -/
def addNode (g : Store) (n : Node) : Store :=
  { g with
    nodes := g.nodes.insert n.id n
    leaving := g.leaving.insertNew n.id .empty
    reaching := g.reaching.insertNew n.id .empty }

/-- The first end of an edge that is not a node. -/
def missingEnd? (g : Store) (e : Edge) : Option String :=
  if !g.contains e.source then some e.source
  else if !g.contains e.target then some e.target
  else none

/-- Add an edge whose ends are known to be nodes. -/
def attach (g : Store) (e : Edge) : Store :=
  { g with
    leaving := g.leaving.add e.source e
    reaching := g.reaching.add e.target e
    edgeCount := g.edgeCount + 1 }

/-- Add an edge between two nodes. -/
def addEdge (g : Store) (e : Edge) : Except MissingEnd Store :=
  match g.missingEnd? e with
  | some id => .error ⟨e, id⟩
  | none => .ok (g.attach e)

/-- Remove one edge equal to a given one. Nothing comes back when there is none. -/
def removeEdge? (g : Store) (e : Edge) : Option Store :=
  if ((g.leaving.bucketsAt e.source).ofType e.type).any e.same then
    some { g with
      leaving := g.leaving.remove e.source e
      reaching := g.reaching.remove e.target e
      edgeCount := g.edgeCount - 1 }
  else none

/-- The edges that leave a node, of some types or of all. -/
def outgoing (g : Store) (id : String) (types : Option (List String) := none) : List Edge :=
  g.leaving.edgesAt id types

/-- The edges that reach a node, of some types or of all. -/
def incoming (g : Store) (id : String) (types : Option (List String) := none) : List Edge :=
  g.reaching.edgesAt id types

/-- All edges, grouped by the node they leave. -/
def edges (g : Store) : List Edge := g.leaving.allEdges

/-- Remove one edge for each edge of a list, as far as there is an equal one. -/
def removeEdges (g : Store) (es : List Edge) : Store :=
  es.foldl (fun g e => (g.removeEdge? e).getD g) g

/-- Remove a node and all edges that touch it. Nothing comes back when there is no such node. An
edge from the node to itself is listed at both of its ends, and found only the first time. -/
def removeNode? (g : Store) (id : String) : Option Store :=
  if g.contains id then
    let bare := g.removeEdges (g.outgoing id ++ g.incoming id)
    some { bare with
      nodes := bare.nodes.erase id
      leaving := bare.leaving.erase id
      reaching := bare.reaching.erase id }
  else none

/-- The ends of the edges that leave a node, one for each edge. -/
def neighbors (g : Store) (id : String) (types : Option (List String) := none) : List String :=
  (g.outgoing id types).map (·.target)

/-- The starts of the edges that reach a node, one for each edge. -/
def predecessors (g : Store) (id : String) (types : Option (List String) := none) : List String :=
  (g.incoming id types).map (·.source)

/-- The number of edges that leave a node. -/
def outDegree (g : Store) (id : String) (types : Option (List String) := none) : Nat :=
  (g.outgoing id types).length

/-- The number of edges that reach a node. -/
def inDegree (g : Store) (id : String) (types : Option (List String) := none) : Nat :=
  (g.incoming id types).length

/-- What a function calls, one entry for each call. -/
def callees (g : Store) (id : String) : List String := g.neighbors id (some [EdgeType.calls])

/-- What calls a function, one entry for each call. -/
def callers (g : Store) (id : String) : List String := g.predecessors id (some [EdgeType.calls])

/-- What a module imports, uses or renames. The edge types are a set; this is one of several orders
in which they can be gone through, and so one of several orders of the ids. -/
def importsOf (g : Store) (id : String) : List String := g.neighbors id (some EdgeType.importLike)

/-- What imports, uses or renames a module, in one of several orders as in `importsOf`. -/
def importedBy (g : Store) (id : String) : List String :=
  g.predecessors id (some EdgeType.importLike)

/-- Whether an id is a node of a type. -/
def isOfType (g : Store) (type id : String) : Bool :=
  (g.node? id).any fun n => n.type == type

/-- The functions that a module defines, one entry for each definition. -/
def functionsOf (g : Store) (id : String) : List String :=
  (g.neighbors id (some [EdgeType.defines])).filter (g.isOfType NodeType.function)

/-- The nodes of a type. -/
def nodesOfType (g : Store) (type : String) : List Node :=
  g.allNodes.filter fun n => n.type == type

/-- The ids of the nodes of some types, or of all nodes. -/
def scope (g : Store) : Option (List String) → List String
  | none => g.ids
  | some types => (g.nodes.entries.filter fun e => types.contains e.2.type).map Prod.fst

/-- The two sizes of a graph in words. -/
def summary (g : Store) : String :=
  s!"GraphStore(nodes={g.nodeCount}, edges={g.edgeCount})"

@[simp] theorem contains_eq_true_iff {g : Store} {id : String} :
    g.contains id = true ↔ id ∈ g.ids := Table.contains_iff

theorem length_ids (g : Store) : g.ids.length = g.nodeCount := List.length_map _

/-- An edge has a missing end exactly when one of its ends is not a node. -/
theorem missingEnd?_eq_none_iff {g : Store} {e : Edge} :
    g.missingEnd? e = none ↔ e.source ∈ g.ids ∧ e.target ∈ g.ids := by
  simp only [← contains_eq_true_iff, missingEnd?]
  cases g.contains e.source <;> cases g.contains e.target <;> simp

/-- An edge is added exactly when both of its ends are nodes. -/
theorem addEdge_eq_ok_iff {g h : Store} {e : Edge} :
    g.addEdge e = .ok h ↔ (e.source ∈ g.ids ∧ e.target ∈ g.ids) ∧ h = g.attach e := by
  rw [← missingEnd?_eq_none_iff, addEdge]
  cases g.missingEnd? e <;> simp [eq_comm]

/-- Adding a node adds nothing but that node. -/
theorem mem_ids_addNode {g : Store} {n : Node} {id : String} :
    id ∈ (g.addNode n).ids ↔ id ∈ g.ids ∨ id = n.id := Table.mem_keys_insert

end Store

end CodeGraph

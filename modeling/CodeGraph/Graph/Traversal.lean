import CodeGraph.Graph.Failure
import CodeGraph.Graph.Selection

/-!
# Traversal

Everything that a node reaches, breadth first. The search keeps the nodes it has seen, in the order
it met them, and a queue of nodes to expand with their distances from the start. A bound counts the
hops beyond the direct neighbours.

Main definitions:

- `Traversal.step`: expand the node at the head of the queue;
- `Store.transitive`: the nodes met, without the start.
-/
namespace CodeGraph

/-- The two ways to follow an edge. -/
inductive Direction where
  | outgoing
  | incoming
  deriving DecidableEq, Repr

/-- The nodes one edge away from a node in a direction. -/
def Store.adjacent (g : Store) (types : Option (List String)) : Direction → String → List String
  | .outgoing, id => g.neighbors id types
  | .incoming, id => g.predecessors id types

/-- The members of a list that are not seen yet, each once. -/
def unseen (seen : List String) : List String → List String
  | [] => []
  | id :: ids => if id ∈ seen then unseen seen ids else id :: unseen (id :: seen) ids

/-- Where a traversal stands. -/
structure Traversal where
  /-- The nodes seen, the start first. -/
  seen : List String
  /-- The nodes to expand, with their distances. -/
  queue : List (String × Nat)
  deriving DecidableEq, Repr

namespace Traversal

/-- A traversal that has only seen its start. -/
def start (id : String) : Traversal := ⟨[id], [(id, 0)]⟩

/-- Whether a distance is beyond a bound. -/
def beyond (maxDepth : Option Int) (distance : Nat) : Bool :=
  maxDepth.any fun k => decide (k < (distance : Int))

/-- Take the node at the head of the queue, and unless it is beyond the bound note the neighbours
that are new. -/
def step (next : String → List String) (maxDepth : Option Int) (t : Traversal) : Traversal :=
  match t.queue with
  | [] => t
  | (id, distance) :: rest =>
    if beyond maxDepth distance then { t with queue := rest }
    else
      let found := unseen t.seen (next id)
      ⟨t.seen ++ found, rest ++ found.map fun v => (v, distance + 1)⟩

/-- Some number of steps. -/
def run (next : String → List String) (maxDepth : Option Int) : Nat → Traversal → Traversal
  | 0, t => t
  | n + 1, t => run next maxDepth n (step next maxDepth t)

end Traversal

namespace Store

/-- Every node that a node reaches along edges of some types in a direction, nearest first and
without the node itself. Direct neighbours are always met when the bound is zero; a bound below
that expands nothing. A step expands one node, and no node is expanded twice. -/
def transitive (g : Store) (id : String) (types : Option (List String))
    (direction : Direction := .outgoing) (maxDepth : Option Int := none) :
    Except Failure (List String) :=
  if g.contains id then
    .ok ((Traversal.start id).run (g.adjacent types direction) maxDepth (g.nodeCount + 1)).seen.tail
  else .error (.nodeNotFound id)

/-- Every function that a function calls, directly or through others. -/
def transitiveCallees (g : Store) (id : String) (maxDepth : Option Int := none) :
    Except Failure (List String) :=
  g.transitive id (some [EdgeType.calls]) .outgoing maxDepth

/-- Every function that calls a function, directly or through others. -/
def transitiveCallers (g : Store) (id : String) (maxDepth : Option Int := none) :
    Except Failure (List String) :=
  g.transitive id (some [EdgeType.calls]) .incoming maxDepth

end Store

end CodeGraph

import CodeGraph.Graph.Traversal

/-!
# Breadth-first search for a target

The search remembers from where it first met each node. When it expands a node that the target
follows, the way from the start to that node is read back.

Main definitions:

- `Search.step`: expand the node at the head of the queue, or stop there;
- `Search.wayBack?`: the nodes from the start to a node, by the remembered origins;
- `Search.wayTo?`: the nodes on a shortest way to a target, the target itself left out.
-/
namespace CodeGraph

/-- Where a search stands. -/
structure Search where
  /-- The node from which each node was first met. -/
  origins : Table String String
  /-- The nodes to expand, with their distances. -/
  queue : List (String × Nat)
  /-- The node at which the search stopped, one edge before the target. -/
  last : Option String := none

namespace Search

/-- A search that has met nothing. -/
def begin (source : String) : Search := ⟨.empty, [(source, 0)], none⟩

/-- Note the node from which some nodes were met. -/
def note (origins : Table String String) (origin : String) (ids : List String) :
    Table String String :=
  ids.foldl (fun t id => t.insert id origin) origins

/-- Whether a node at a distance may not be expanded when a path may have so many edges. -/
def exhausted (maxHops : Option Int) (distance : Nat) : Bool :=
  maxHops.any fun k => decide (k ≤ (distance : Int))

/-- Take the node at the head of the queue. If the target follows it, stop; else note the
successors that are new. -/
def step (next : String → List String) (maxHops : Option Int) (source target : String)
    (s : Search) : Search :=
  match s.last, s.queue with
  | none, (id, distance) :: rest =>
    if exhausted maxHops distance then { s with queue := rest }
    else if target ∈ next id then { s with last := some id }
    else
      let found := unseen (source :: s.origins.keys) (next id)
      { s with
        origins := note s.origins id found
        queue := rest ++ found.map fun v => (v, distance + 1) }
  | _, _ => s

/-- Some number of steps. -/
def run (next : String → List String) (maxHops : Option Int) (source target : String) :
    Nat → Search → Search
  | 0, s => s
  | n + 1, s => run next maxHops source target n (step next maxHops source target s)

/-- Put the nodes from the source to a node in front of a path, going back from origin to origin. -/
def wayBack? (origins : Table String String) (source : String) :
    Nat → String → List String → Option (List String)
  | 0, _, _ => none
  | n + 1, id, path =>
    if id = source then some (id :: path)
    else match origins.get? id with
      | none => none
      | some origin => wayBack? origins source n origin (id :: path)

/-- The nodes on a shortest way from a source to a target, without the target, when at most so many
nodes can be met. The way has at least one edge, also when the target is the source. -/
def wayTo? (next : String → List String) (maxHops : Option Int) (source target : String)
    (size : Nat) : Option (List String) :=
  let s := (begin source).run next maxHops source target (size + 1)
  s.last.bind fun id => wayBack? s.origins source (size + 1) id []

end Search

end CodeGraph

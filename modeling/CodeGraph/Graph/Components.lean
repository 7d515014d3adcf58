import CodeGraph.Graph.Selection

/-!
# Strongly connected components

One depth-first search finds all components. Nodes are numbered as they are met and stand on a stack
until their component is complete. The link of a node is the least number that the search has seen
it lead back to; a node whose link is its own number closes a component, which is everything from
that node to the top of the stack.

Main definitions:

- `ComponentSearch.step`: enter a node, look at one edge, or leave a node;
- `Store.components`: the components that hold a cycle, in the order they are completed.
-/
namespace CodeGraph

/-- Where a search for components stands. -/
structure ComponentSearch where
  /-- The nodes to start from that are left. -/
  roots : List String
  /-- The numbers of the nodes met. -/
  index : Table String Nat := .empty
  /-- The links of the nodes met. -/
  link : Table String Nat := .empty
  /-- The nodes whose component is open, the latest first. -/
  stack : List String := []
  /-- The same nodes as a set. -/
  onStack : List String := []
  /-- The nodes entered and not left, the latest first, with the edges still to look at. -/
  work : List (String × List String) := []
  /-- The components completed, the first one first. -/
  done : List (List String) := []
  /-- The next number. -/
  counter : Nat := 0

namespace ComponentSearch

/-- The number of a node that was met. -/
def indexOf (s : ComponentSearch) (id : String) : Nat := (s.index.get? id).getD 0

/-- The link of a node that was met. -/
def linkOf (s : ComponentSearch) (id : String) : Nat := (s.link.get? id).getD 0

/-- Number a node, put it on the stack and begin to look at its edges. -/
def enter (next : String → List String) (id : String) (s : ComponentSearch) : ComponentSearch :=
  { s with
    index := s.index.insert id s.counter
    link := s.link.insert id s.counter
    stack := id :: s.stack
    onStack := id :: s.onStack
    work := (id, next id) :: s.work
    counter := s.counter + 1 }

/-- Lower the link of a node. -/
def lower (id : String) (n : Nat) (s : ComponentSearch) : ComponentSearch :=
  { s with link := s.link.insert id (min (s.linkOf id) n) }

/-- Take everything from the top of the stack down to a node as a component, lowest first. -/
def close (id : String) (s : ComponentSearch) : ComponentSearch :=
  let component := s.stack.takeWhile (· ≠ id) ++ [id]
  { s with
    stack := (s.stack.dropWhile (· ≠ id)).drop 1
    onStack := s.onStack.filter fun v => !component.contains v
    done := s.done ++ [component.reverse] }

/-- Hand the link of a node to the node from which it was entered. -/
def handOver (id : String) (s : ComponentSearch) : ComponentSearch :=
  match s.work with
  | [] => s
  | (parent, _) :: _ => s.lower parent (s.linkOf id)

/-- Leave a node all of whose edges were looked at. -/
def leave (id : String) (s : ComponentSearch) : ComponentSearch :=
  let s := s.handOver id
  if s.linkOf id = s.indexOf id then s.close id else s

/-- Enter a node, look at one edge, or leave a node. -/
def step (next : String → List String) (s : ComponentSearch) : ComponentSearch :=
  match s.work with
  | [] =>
    match s.roots with
    | [] => s
    | root :: roots =>
      let s := { s with roots := roots }
      if s.index.contains root then s else s.enter next root
  | (id, []) :: work => { s with work := work }.leave id
  | (id, target :: targets) :: work =>
    let s := { s with work := (id, targets) :: work }
    if !s.index.contains target then s.enter next target
    else if s.onStack.contains target then s.lower id (s.indexOf target)
    else s

/-- Some number of steps. -/
def run (next : String → List String) : Nat → ComponentSearch → ComponentSearch
  | 0, s => s
  | n + 1, s => run next n (step next s)

end ComponentSearch

namespace Store

/-- All strongly connected components of a selection, in the order the search completes them. Every
root, every edge and every node takes one step. -/
def allComponents (g : Store) (s : Selection) : List (List String) :=
  let roots := g.selected s
  let steps := 2 * roots.length + g.selectedEdgeCount s
  (ComponentSearch.run (g.selectedSuccessors s) steps { roots := roots }).done

/-- Whether a component holds a cycle: it has two members, or one with an edge to itself. -/
def holdsCycle (g : Store) (s : Selection) : List String → Bool
  | [] => false
  | [id] => (g.selectedSuccessors s id).contains id
  | _ => true

/-- The strongly connected components of a selection that hold a cycle. -/
def components (g : Store) (s : Selection := .callGraph) : List (List String) :=
  (g.allComponents s).filter (g.holdsCycle s)

end Store

end CodeGraph

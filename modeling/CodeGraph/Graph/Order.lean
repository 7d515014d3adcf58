import CodeGraph.Graph.Selection

/-!
# Topological order

The nodes of a selection, each after all nodes that an edge demands before it. Every node counts the
demands that keep it back; placing a node takes back the demands that it answers, and a node with no
demand left may be placed. Of the nodes that may come next, the smallest id comes first. There is no
such order when the edges form a cycle.

Main definitions:

- `Store.demands`: the pairs of nodes, earlier one first, that the edges demand;
- `OrderSearch.step`: place one node;
- `Store.topologicalOrder`: the order, if there is one.
-/
namespace CodeGraph

/-- The smallest text of a list. -/
def smallest? : List String → Option String
  | [] => none
  | s :: ss =>
    match smallest? ss with
    | none => some s
    | some t => if t < s then some t else some s

/-- Where a search for an order stands. -/
structure OrderSearch where
  /-- The number of demands that keep each node back. -/
  waiting : Table String Nat
  /-- The nodes that nothing keeps back and that are not placed. -/
  ready : List String
  /-- The nodes placed, the first one first. -/
  order : List String := []

namespace OrderSearch

/-- The number of demands that keep a node back. -/
def waitingOf (s : OrderSearch) (id : String) : Nat := (s.waiting.get? id).getD 0

/-- A search over some nodes under some demands. -/
def start (ids : List String) (demands : List (String × String)) : OrderSearch :=
  let waiting := Table.tally (demands.map Prod.snd)
  ⟨waiting, ids.filter fun id => (waiting.get? id).getD 0 == 0, []⟩

/-- Take back one of the demands that keep a node back. It is ready when none is left. -/
def release (s : OrderSearch) (id : String) : OrderSearch :=
  let left := s.waitingOf id - 1
  { s with
    waiting := s.waiting.insert id left
    ready := if left = 0 then id :: s.ready else s.ready }

/-- Place the smallest node that is ready, and release the nodes that come after it. -/
def step (after : String → List String) (s : OrderSearch) : OrderSearch :=
  match smallest? s.ready with
  | none => s
  | some id =>
    (after id).foldl release { s with ready := s.ready.erase id, order := s.order ++ [id] }

/-- Some number of steps. -/
def run (after : String → List String) : Nat → OrderSearch → OrderSearch
  | 0, s => s
  | n + 1, s => run after n (step after s)

end OrderSearch

/-- The nodes that come after a node, one entry for each demand. -/
def followers (demands : Table String (List String)) (id : String) : List String :=
  (demands.get? id).getD []

/-- As many of some nodes as the demands allow, in order. -/
def orderUnder (ids : List String) (demands : List (String × String)) : List String :=
  ((OrderSearch.start ids demands).run (followers (Table.group demands)) ids.length).order

namespace Store

/-- The pairs of nodes that the edges of a selection demand in order, earlier one first: the start
of an edge before its end, or the other way round. -/
def demands (g : Store) (s : Selection) (reverse : Bool) : List (String × String) :=
  (g.selected s).flatMap fun id =>
    (g.selectedSuccessors s id).map fun target => if reverse then (target, id) else (id, target)

/-- The nodes of a selection in topological order; nothing when the edges form a cycle. -/
def topologicalOrder (g : Store) (s : Selection := ⟨none, none⟩) (reverse : Bool := false) :
    Option (List String) :=
  let ids := g.selected s
  let order := orderUnder ids (g.demands s reverse)
  if order.length = ids.length then some order else none

end Store

end CodeGraph

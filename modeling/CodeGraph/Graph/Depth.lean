import CodeGraph.Graph.Failure
import CodeGraph.Graph.Selection

/-!
# Depth

The depth of a node is the number of edges on a longest chain that starts at it. A node that is on a
cycle or reaches one has no depth. Depths are found by a depth-first search that keeps the nodes on
the way from the start, and remembers every depth it has settled; the memory may be carried from one
search to the next.

Main definitions:

- `DepthSearch.step`: look at one edge, or settle a node;
- `Store.longestChain`: the depth of one node;
- `Store.allCallDepths`: the depths of all nodes of some types, over one memory.
-/
namespace CodeGraph

/-- The depth of a node, if its chains have an end. -/
inductive Depth where
  | finite (n : Nat)
  | cyclic
  deriving DecidableEq, Repr

namespace Depth

/-- A depth as a value. -/
def toValue : Depth → Value
  | .finite n => .int n
  | .cyclic => .text "cycle"

/-- The text of a depth. -/
def text : Depth → String
  | .finite n => toString n
  | .cyclic => "cycle"

end Depth

/-- A node on the way from the start, and what is known of its depth. -/
structure DepthFrame where
  id : String
  /-- The successors still to look at. -/
  pending : List String
  /-- The depth that the successors looked at give. -/
  depth : Nat := 0
  /-- Whether a chain without end was met. -/
  cyclic : Bool := false
  deriving DecidableEq, Repr

/-- Where a search for depths stands. -/
structure DepthSearch where
  /-- The depths settled. -/
  memo : Table String Depth
  /-- The nodes on the way from the start. -/
  onPath : List String
  /-- The same nodes with what is known of them, the latest first. -/
  stack : List DepthFrame

namespace DepthFrame

/-- Take the depth of a successor into account. -/
def absorb (f : DepthFrame) : Depth → DepthFrame
  | .cyclic => { f with cyclic := true }
  | .finite n => { f with depth := max f.depth (n + 1) }

/-- The depth of a node whose successors were all looked at. -/
def settled (f : DepthFrame) : Depth := if f.cyclic then .cyclic else .finite f.depth

end DepthFrame

namespace DepthSearch

/-- A search that starts at a node. -/
def start (next : String → List String) (memo : Table String Depth) (id : String) : DepthSearch :=
  ⟨memo, [id], [{ id := id, pending := next id }]⟩

/-- Look at one edge of the latest node, or settle that node. -/
def step (next : String → List String) (s : DepthSearch) : DepthSearch :=
  match s.stack with
  | [] => s
  | f :: rest =>
    match f.pending with
    | target :: targets =>
      let f := { f with pending := targets }
      if target ∈ s.onPath then { s with stack := { f with cyclic := true } :: rest }
      else match s.memo.get? target with
        | some depth => { s with stack := f.absorb depth :: rest }
        | none =>
          { s with
            onPath := target :: s.onPath
            stack := { id := target, pending := next target } :: f :: rest }
    | [] =>
      { memo := s.memo.insert f.id f.settled
        onPath := s.onPath.filter (· ≠ f.id)
        stack := match rest with
          | [] => []
          | parent :: others => parent.absorb f.settled :: others }

/-- Some number of steps. -/
def run (next : String → List String) : Nat → DepthSearch → DepthSearch
  | 0, s => s
  | n + 1, s => run next n (step next s)

/-- The memory after a search from a node. A node that is settled is not searched again. -/
def explore (next : String → List String) (steps : Nat) (memo : Table String Depth)
    (id : String) : Table String Depth :=
  if memo.contains id then memo else (run next steps (start next memo id)).memo

end DepthSearch

namespace Store

/-- The number of steps that settle every node: one for each edge, each node, and a start outside
the graph. -/
def depthSteps (g : Store) (next : String → List String) : Nat :=
  g.ids.foldl (fun n id => n + (next id).length) (g.nodeCount + 1)

/-- The number of edges on a longest chain from a node, along edges of some types into members. -/
def longestChain (g : Store) (id : String)
    (types : Option (List String) := some [EdgeType.calls])
    (members : Option (List String) := none) : Depth :=
  let next := g.successors types members
  ((DepthSearch.explore next (g.depthSteps next) .empty id).get? id).getD .cyclic

/-- The number of calls on a longest chain of calls from a function. -/
def callDepth (g : Store) (id : String) : Except Failure Nat :=
  if g.contains id then
    match g.longestChain id with
    | .finite n => .ok n
    | .cyclic => .error (.cycleDetected id)
  else .error (.nodeNotFound id)

/-- The call depths of all nodes of some types, with one memory for all searches. -/
def allCallDepths (g : Store)
    (nodeTypes : Option (List String) := some [NodeType.function]) : List (String × Depth) :=
  let next := g.successors (some [EdgeType.calls]) none
  let steps := g.depthSteps next
  let explore (found : Table String Depth × List (String × Depth)) (id : String) :=
    let memo := DepthSearch.explore next steps found.1 id
    (memo, found.2 ++ [(id, (memo.get? id).getD .cyclic)])
  ((g.scope nodeTypes).foldl explore (.empty, [])).2

end Store

end CodeGraph

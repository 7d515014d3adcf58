import CodeGraph.Graph.Components
import CodeGraph.Graph.Search

/-!
# Cycles

A graph can have very many cycles, so one is shown for each strongly connected component: a shortest
one through the component's first member.
-/
namespace CodeGraph.Store

/-- A shortest cycle through the first member of a component, from that member on. -/
def representativeCycle (g : Store) (s : Selection) (component : List String) : List String :=
  match component with
  | [] => []
  | first :: _ =>
    let inside := component.filter (g.selected s).contains
    let next := g.successors s.edgeTypes (some inside)
    (Search.wayTo? next none first first g.nodeCount).getD component

/-- One cycle for each component that holds one, at most so many. -/
def cycles (g : Store) (maxCycles : Option Int := none) (s : Selection := .callGraph) :
    List (List String) :=
  let found := g.components s
  let shown := match maxCycles with
    | none => found
    | some k => found.take k.toNat
  shown.map (g.representativeCycle s)

/-- Whether a selection holds a cycle. -/
def hasCycle (g : Store) (s : Selection := .callGraph) : Bool := !(g.cycles (some 1) s).isEmpty

end CodeGraph.Store

import CodeGraph.Console.Report
import CodeGraph.Graph.Cycles
import CodeGraph.Graph.Depth
import CodeGraph.Graph.ModuleCalls
import CodeGraph.Graph.Path
import CodeGraph.Graph.Ranking
import CodeGraph.Graph.Stats
import CodeGraph.Graph.Traversal

/-!
# Queries on a call graph

What can be asked of the graph of some facts on the command line, and the reports that answer.

Main definitions:

- `GraphQuery`: the queries;
- `GraphQuery.answer`: the report, or the failure, that answers a query.
-/
namespace CodeGraph

/-- A query on a call graph. -/
inductive GraphQuery where
  /-- The counts of the graph. -/
  | stats
  /-- The callers or callees of a function, on request the indirect ones too. -/
  | related (direction : Direction) (id : String) (indirect : Bool) (maxDepth : Option Int)
  /-- A shortest chain of calls between two functions. -/
  | path (source target : String) (maxHops : Int)
  /-- Cycles of calls. -/
  | cycles (atMost : Option Int)
  /-- The functions with the most calls. -/
  | mostConnected (limit : Int)
  /-- The depth of the chains of calls below one function, or below every function. -/
  | depth (id : Option String)
  /-- The functions that nothing calls. -/
  | entryPoints
  /-- The functions that call nothing. -/
  | leaves
  /-- The calls of the functions of a module. -/
  | moduleCalls (id : String)
  deriving DecidableEq, Repr

namespace GraphQuery

/-- A node in short, as a value. An id that is no node goes by itself. -/
def nodeValue (g : Store) (id : String) : Value :=
  match g.node? id with
  | none => .record [("id", .text id), ("name", .text id), ("type", .text "")]
  | some n => .record [("id", .text n.id), ("name", .text n.name), ("type", .text n.type)]

/-- Nodes in short, as a value. -/
def nodesValue (g : Store) (ids : List String) : Value := .list (ids.map (nodeValue g))

/-- A node for a reader: its name with its id, or the id alone when they are the same. -/
def nodeMarkup (g : Store) (id : String) : String :=
  match g.node? id with
  | none => "[cyan]" ++ id ++ "[/]"
  | some n =>
    if n.name = id then "[cyan]" ++ id ++ "[/]"
    else "[cyan]" ++ n.name ++ "[/] [dim](" ++ id ++ ")[/]"

/-- The lines of a table of counts, by type in alphabetical order. -/
def countLines (t : Table String Nat) : List Block :=
  (t.entries.mergeSort fun a b => a.1 ≤ b.1).map fun e =>
    .line ("  [dim]" ++ e.1 ++ ":[/] " ++ toString e.2)

/-- The counts of a graph. -/
def statsReport (s : Stats) : Report where
  value := s.toValue
  blocks :=
    .line s!"Nodes: {s.nodeCount}" :: countLines s.nodesByType ++
      .line s!"Edges: {s.edgeCount}" :: countLines s.edgesByType

/-- The name for the nodes on the other side of a call, and the same with a capital. -/
def relatedName : Direction → String × String
  | .incoming => ("callers", "Callers")
  | .outgoing => ("callees", "Callees")

/-- The functions that a function is related to by calls in a direction. -/
def relatedIds (g : Store) (direction : Direction) (id : String) (indirect : Bool)
    (maxDepth : Option Int) : Except Failure (List String) :=
  if indirect then g.transitive id (some [EdgeType.calls]) direction maxDepth
  else if g.contains id then
    .ok (g.adjacent (some [EdgeType.calls]) direction id).eraseDups
  else .error (.nodeNotFound id)

/-- The functions that a function is related to. -/
def relatedReport (g : Store) (direction : Direction) (id : String) (ids : List String) :
    Report where
  value := .record [("node", nodeValue g id), ((relatedName direction).1, nodesValue g ids)]
  blocks :=
    .line ("\n[bold]" ++ nodeMarkup g id ++ "[/]") ::
      if ids.isEmpty then [.line ("  [dim]No " ++ (relatedName direction).1 ++ " found[/]")]
      else
        .line ("  [green]" ++ (relatedName direction).2 ++ ":[/]") ::
          ids.map fun other => .line ("    " ++ nodeMarkup g other)

/-- The mark in front of a node on a chain, given its place and the length of the chain. -/
def chainMark (i length : Nat) : String :=
  if i = 0 then "  " else if i + 1 = length then "  └─ " else "  ├─ "

/-- A chain of calls. -/
def pathReport (g : Store) (chain : List String) : Report where
  value := .record [("path", nodesValue g chain)]
  blocks :=
    chain.mapIdx (fun i id => .line (chainMark i chain.length ++ nodeMarkup g id)) ++
      [.line s!"\n[dim]Calls: {chain.length - 1}[/]"]

/-- A cycle for a reader: its nodes, and the first one again. -/
def cycleMarkup (cycle : List String) : String :=
  String.intercalate " → " ((cycle ++ cycle.take 1).map fun id => "[cyan]" ++ id ++ "[/]")

/-- Cycles as a value. -/
def cyclesValue (cycles : List (List String)) : Value :=
  .record [("cycles", .list (cycles.map .texts))]

/-- Cycles of calls. -/
def cyclesReport (cycles : List (List String)) : Report where
  value := cyclesValue cycles
  blocks :=
    if cycles.isEmpty then [.line "[green]No cycles found[/]"]
    else
      cycles.map (fun c => .line (cycleMarkup c)) ++
        [.line s!"\n[dim]Cycles: {cycles.length}[/]"]

/-- Functions with their numbers of calls. -/
def rankingReport (ranked : List RankedNode) : Report where
  value := .list (ranked.map RankedNode.toValue)
  blocks :=
    [.grid ⟨["Function", "Id", "Connectivity"],
      ranked.map fun r => [r.name, r.id, toString r.connectivity]⟩]

/-- The depth of one function. -/
def depthReport (g : Store) (id : String) (depth : Nat) : Report where
  value := .record [("node", nodeValue g id), ("depth", .int depth)]
  blocks := [.line (nodeMarkup g id ++ ": " ++ toString depth)]

/-- A depth for a reader. -/
def depthMarkup : Depth → String
  | .cyclic => "[yellow]cycle[/]"
  | d => d.text

/-- The depths of all functions. -/
def allDepthsReport (depths : List (String × Depth)) : Report where
  value := .record (depths.map fun d => (d.1, d.2.toValue))
  blocks :=
    [.grid ⟨["Function", "Depth"],
      (depths.mergeSort fun a b => a.1 ≤ b.1).map fun d => [d.1, depthMarkup d.2]⟩]

/-- A list of nodes, with what is said when it is empty. -/
def nodesReport (g : Store) (empty : String) (ids : List String) : Report where
  value := nodesValue g ids
  blocks :=
    if ids.isEmpty then [.line ("[dim]" ++ empty ++ "[/]")]
    else ids.map fun id => .line ("  " ++ nodeMarkup g id)

/-- The calls of a module. -/
def moduleReport (g : Store) (m : ModuleCalls) : Report where
  value := m.toValue
  blocks :=
    [.line ("\n[bold]" ++ nodeMarkup g m.id ++ "[/]"),
      .line s!"  Functions: {m.functionCount}",
      .line s!"  Internal calls: {m.internalCalls}",
      .line s!"  External calls: {m.externalCalls}",
      .line s!"  External dependencies: {m.externalDependencies}",
      .line ("  Cohesion: " ++ m.cohesion.fixedText)]

/-- The report, or the failure, that answers a query. -/
def answer (g : Store) : GraphQuery → Except Failure Report
  | stats => .ok (statsReport g.stats)
  | related direction id indirect maxDepth =>
    (relatedIds g direction id indirect maxDepth).map (relatedReport g direction id)
  | path source target maxHops =>
    (g.callChain source target (some maxHops)).map (pathReport g)
  | cycles atMost => .ok (cyclesReport (g.cycles atMost))
  | mostConnected limit => .ok (rankingReport (g.mostConnected limit))
  | depth (some id) => (g.callDepth id).map (depthReport g id)
  | depth none => .ok (allDepthsReport g.allCallDepths)
  | entryPoints => .ok (nodesReport g "No entry points found" g.entryPoints)
  | leaves => .ok (nodesReport g "No leaf functions found" g.leafFunctions)
  | moduleCalls id => (g.moduleCalls id).map (moduleReport g)

end GraphQuery

end CodeGraph

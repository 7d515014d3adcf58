import CodeGraph.Command.Run
import CodeGraph.Tools.Bound
import CodeGraph.Tools.Catalog

/-!
# Calling tools

A tool takes its graph from the file that the environment names, and answers a call with JSON text
over indented lines. A failed query is an answer like any other. Whatever else goes wrong is
answered on one line.

Main definitions:

- `Tool.answer`: the value that a tool answers with;
- `callTool`: the text that a call is answered with.
-/
namespace CodeGraph

/-- Why a tool has no answer. -/
inductive ToolError where
  | noFacts (path : Path)
  | noPortfolio
  | error (e : Error)
  deriving Repr

/-- The message of a tool's error. -/
def ToolError.message : ToolError → String
  | .noFacts path =>
    "No repograph facts found. Set " ++ factsVariable ++ " or write them to " ++ path.text
  | .noPortfolio => "No portfolio configured. Set " ++ portfolioVariable ++ "."
  | .error e => e.message

namespace Tool

/-- The graph of the facts that the environment names. -/
def callGraph (env : Environment) (files : Files) : Except ToolError Store :=
  let p := (env.path? factsVariable).getD files.directory.defaultFacts
  if files.exists? p then
    match files.loadGraph p with
    | .ok built => .ok built.graph
    | .error e => .error (.error e)
  else .error (.noFacts p)

/-- The graph of the portfolio that the environment names. -/
def repoGraph (env : Environment) (files : Files) : Except ToolError Store :=
  match env.path? portfolioVariable with
  | none => .error .noPortfolio
  | some p =>
    match files.loadPortfolio p with
    | .ok manifests => .ok (portfolioGraph manifests)
    | .error e => .error (.error e)

/-- A node as a value. -/
def nodeValue (g : Store) (id : String) : Value :=
  match g.node? id with
  | some n => n.toValue
  | none => .record [("id", .text id)]

/-- Nodes as a value. -/
def nodesValue (g : Store) (ids : List String) : Value := .list (ids.map (nodeValue g))

/-- The answer for an id that is no node, whatever value it is. -/
def notFound (id : Value) : Value :=
  .record [("error", .text (Failure.nodeNotFound "").kind), ("detail", id)]

/-- The id that a value gives, if it is a node. Lists and objects cannot be looked up. -/
def node? (g : Store) (v : Value) : Except Fault (Option String) :=
  match v with
  | .text id => .ok (if g.contains id then some id else none)
  | .list _ => .error (.notAKey .list)
  | .object _ => .error (.notAKey .object)
  | _ => .ok none

/-- The functions that a tool lists for a function: its callers or its callees, or on request all
that a chain of calls joins to it. -/
def relatedIds (g : Store) (direction : Direction) (id : String) (indirect : Bool)
    (maxDepth : Option Int) : Except Failure (List String) :=
  if indirect then g.transitive id (some [EdgeType.calls]) direction maxDepth
  else if !g.contains id then .error (.nodeNotFound id)
  else match direction with
    | .incoming => .ok (g.callers id).eraseDups
    | .outgoing => .ok (g.callees id).eraseDups

/-- The callers or callees of a function. -/
def related (direction : Direction) (g : Store) (arguments : Value) : Except Fault Value := do
  let given ← arguments.item "id"
  let indirect ← arguments.getD "transitive" (.bool false)
  let maxDepth ← arguments.get "max_depth"
  match ← node? g given with
  | none => return notFound given
  | some id =>
    let bound ← if indirect.isEmptyLike then pure none else Bound.greatest maxDepth
    match relatedIds g direction id (!indirect.isEmptyLike) bound with
    | .error f => return f.toValue
    | .ok ids =>
      return .record [("node", nodeValue g id),
        ((GraphQuery.relatedName direction).1, nodesValue g ids)]

/-- The answer with a chain of calls. -/
def chainValue (g : Store) (chain : List String) : Value :=
  .record [("path", nodesValue g chain), ("length", .int (chain.length - 1 : Nat))]

/-- A shortest chain of calls between two functions. The bound is looked at only when they
differ. -/
def shortestChain (g : Store) (arguments : Value) : Except Fault Value := do
  let source ← arguments.item "from"
  let target ← arguments.item "to"
  let given ← arguments.getD "max_depth" (.int defaultMaxHops)
  match ← node? g source with
  | none => return notFound source
  | some source =>
    match ← node? g target with
    | none => return notFound target
    | some target =>
      if source = target then return chainValue g [source]
      else
        let bound ← Bound.least given
        match g.callChain source target bound with
        | .ok chain => return chainValue g chain
        | .error f =>
          return .record [("error", .text f.kind),
            ("detail", .text (Failure.noPathDetail source target given.display))]

/-- The counts of a graph, on request with its most connected functions and entry points. -/
def counts (g : Store) (arguments : Value) : Except Fault Value := do
  let limit ← arguments.get "hot_paths"
  let entryPoints ← arguments.getD "entry_points" (.bool false)
  let ranking ←
    if limit.isEmptyLike then pure []
    else do
      let stop ← Bound.sliceEnd limit
      pure [("hot_paths", Value.list ((g.mostConnected stop).map RankedNode.toValue))]
  let starts :=
    if entryPoints.isEmptyLike then [] else [("entry_points", Value.texts g.entryPoints)]
  return .record (g.stats.entries ++ ranking ++ starts)

/-- Cycles of calls. The bound is looked at only when there is a cycle. -/
def callCycles (g : Store) (arguments : Value) : Except Fault Value := do
  let given ← arguments.get "max_cycles"
  let bound ← if (g.components).isEmpty then pure none else Bound.leastOrNone given
  let cycles := g.cycles bound
  return .record [("cycles", .list (cycles.map .texts)), ("count", .int cycles.length)]

/-- What a change to a repository affects. -/
def repoImpact (g : Store) (arguments : Value) : Except Fault Value := do
  let given ← arguments.item "repo"
  match ← node? g given with
  | none => return notFound given
  | some repo =>
    match g.impact repo with
    | .ok i => return i.toValue
    | .error f => return f.toValue

/-- The value that a tool answers with. The graph is loaded before the arguments are looked at. -/
def answer (env : Environment) (files : Files) (arguments : Value) (t : Tool) :
    Except ToolError Value := do
  let onCalls (query : Store → Value → Except Fault Value) : Except ToolError Value := do
    let g ← callGraph env files
    (query g arguments).mapError fun f => .error (.fault f)
  match t with
  | callers => onCalls (related .incoming)
  | callees => onCalls (related .outgoing)
  | path => onCalls shortestChain
  | stats => onCalls counts
  | cycles => onCalls callCycles
  | impact =>
    let g ← repoGraph env files
    (repoImpact g arguments).mapError fun f => .error (.fault f)

end Tool

/-- The value that says what went wrong. -/
def errorValue (message : String) : Value := .record [("error", .text message)]

/-- The text that the call of a tool by its name is answered with. -/
def callTool (env : Environment) (files : Files) (name : String) (arguments : Value) : String :=
  match Tool.ofName? name with
  | none => Json.indented (errorValue ("Unknown tool: " ++ name))
  | some t =>
    match t.answer env files arguments with
    | .ok v => Json.indented v
    | .error e => Json.line (errorValue e.message)

end CodeGraph

import CodeGraph.Document.Value
import CodeGraph.Graph.Path

/-!
# The catalog of tools

The tools that a server offers to its clients: their names, what they do, and the schemas of their
arguments.

Main statements:

- `ofName?_name`: a tool is found by its name.
-/
namespace CodeGraph

/-- A tool of the server. -/
inductive Tool where
  | callers
  | callees
  | path
  | stats
  | cycles
  | impact
  deriving DecidableEq, Repr

namespace Tool

/-- All tools, in the order in which they are listed. -/
def all : List Tool := [callers, callees, path, stats, cycles, impact]

/-- The name of a tool. -/
def name : Tool → String
  | callers => "repograph_callers"
  | callees => "repograph_callees"
  | path => "repograph_path"
  | stats => "repograph_stats"
  | cycles => "repograph_cycles"
  | impact => "repograph_impact"

/-- The tool with a name. -/
def ofName? (s : String) : Option Tool := all.find? fun t => t.name == s

/-- A tool is found by its name. -/
theorem ofName?_name (t : Tool) : ofName? t.name = some t := by cases t <;> decide

/-- What a tool does. -/
def description : Tool → String
  | callers =>
    "Find all functions that call a given function. Set transitive to include indirect callers."
  | callees =>
    "Find all functions that a given function calls. Set transitive to include indirect callees."
  | path => "Find the shortest call chain from one function to another."
  | stats =>
    "Get node and edge counts of the graph, optionally with the most connected functions and " ++
      "the entry points."
  | cycles => "Find recursive call cycles, one per strongly connected group."
  | impact =>
    "Find which repos in the portfolio are affected, directly or transitively, by a change to " ++
      "a repo, with a risk level."

/-- An argument of a tool: its name, its type, what it means, and its default. -/
structure Argument where
  name : String
  type : String
  description : String
  default : Option Value := none

/-- The schema of one argument. -/
def Argument.schema (a : Argument) : Value :=
  .record ([("type", .text a.type), ("description", .text a.description)] ++
    match a.default with
    | none => []
    | some v => [("default", v)])

/-- The arguments of the tools for callers and callees. -/
def relatedArguments (callers : String) : List Argument :=
  [⟨"id", "string", "Id of the function to find " ++ callers ++ " for", none⟩,
    ⟨"transitive", "boolean", "Include indirect " ++ callers ++ " (default: false)",
      some (.bool false)⟩,
    ⟨"max_depth", "integer", "Hops beyond direct " ++ callers ++ " when transitive", none⟩]

/-- The arguments of a tool. -/
def arguments : Tool → List Argument
  | callers => relatedArguments "callers"
  | callees => relatedArguments "callees"
  | path =>
    [⟨"from", "string", "Function to start from", none⟩,
      ⟨"to", "string", "Function to reach", none⟩,
      ⟨"max_depth", "integer", s!"Maximum number of calls (default: {defaultMaxHops})",
        some (.int defaultMaxHops)⟩]
  | stats =>
    [⟨"hot_paths", "integer", "Number of most connected functions to include", none⟩,
      ⟨"entry_points", "boolean", "Include functions nothing calls", some (.bool false)⟩]
  | cycles => [⟨"max_cycles", "integer", "Stop after this many cycles", none⟩]
  | impact => [⟨"repo", "string", "Repo that changes", none⟩]

/-- The arguments that must be given. -/
def required : Tool → List String
  | callers => ["id"]
  | callees => ["id"]
  | path => ["from", "to"]
  | stats => []
  | cycles => []
  | impact => ["repo"]

/-- The schema of the arguments of a tool. -/
def schema (t : Tool) : Value :=
  .record ([("type", .text "object"),
      ("properties", .record (t.arguments.map fun a => (a.name, a.schema)))] ++
    if t.required.isEmpty then [] else [("required", .texts t.required)])

/-- A tool as it is listed. -/
def toValue (t : Tool) : Value :=
  .record [("name", .text t.name), ("description", .text t.description),
    ("inputSchema", t.schema)]

end Tool

end CodeGraph

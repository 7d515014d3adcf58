import CodeGraph.Document.Value

/-!
# Failed queries

A query that cannot be answered says why. Such an outcome is expected, and no fault of the graph.
-/
namespace CodeGraph

/-- Why a query has no answer. -/
inductive Failure where
  /-- An id that was asked about is not a node. -/
  | nodeNotFound (id : String)
  /-- No path of at most so many edges joins two nodes; without a bound, no path at all. -/
  | noPath (source target : String) (maxHops : Option Int)
  /-- A node is on a cycle of calls, or reaches one. -/
  | cycleDetected (id : String)
  /-- A repository is on a cycle of dependencies, or reaches one. -/
  | cyclicDependency (repo : String)
  /-- Some repositories of a portfolio are on a cycle of dependencies. -/
  | cyclicPortfolio
  deriving DecidableEq, Repr

namespace Failure

/-- The name of the kind of failure. -/
def kind : Failure → String
  | .nodeNotFound _ => "node_not_found"
  | .noPath .. => "no_path"
  | .cycleDetected _ => "cycle_detected"
  | .cyclicDependency _ => "cyclic_dependency"
  | .cyclicPortfolio => "cyclic_dependency"

/-- What a missing path says. -/
def noPathDetail (source target hops : String) : String :=
  source ++ " -> " ++ target ++ " within " ++ hops ++ " hops"

/-- What the failure is about. -/
def detail : Failure → String
  | .nodeNotFound id => id
  | .noPath source target maxHops =>
    noPathDetail source target (match maxHops with
      | some k => toString k
      | none => "None")
  | .cycleDetected id => id
  | .cyclicDependency repo => repo
  | .cyclicPortfolio => "portfolio repos depend on each other"

/-- A failure as a value. -/
def toValue (f : Failure) : Value :=
  .record [("error", .text f.kind), ("detail", .text f.detail)]

end Failure

end CodeGraph

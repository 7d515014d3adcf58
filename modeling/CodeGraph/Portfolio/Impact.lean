import CodeGraph.Portfolio.Graph

/-!
# Impact of a change

The repositories that a change to a repository or package may affect: those that depend on it, and
those that depend on it through others. The number of affected repositories gives the level of risk.
-/
namespace CodeGraph

/-- How far a change ripples. -/
inductive RiskLevel where
  | low
  | medium
  | high
  | critical
  deriving DecidableEq, Repr

namespace RiskLevel

/-- The most affected repositories at the levels below the highest. -/
def thresholds : List (Int × RiskLevel) := [(1, low), (3, medium), (6, high)]

/-- The level of a number of affected repositories. -/
def ofNumber (affected : Number) : RiskLevel :=
  match thresholds.find? fun t => affected.leInt t.1 with
  | some t => t.2
  | none => critical

/-- The level of a count of affected repositories. -/
def ofCount (n : Nat) : RiskLevel := ofNumber (.int n)

/-- The name of a level. -/
def name : RiskLevel → String
  | low => "low"
  | medium => "medium"
  | high => "high"
  | critical => "critical"

end RiskLevel

/-- What a change to a repository affects. -/
structure Impact where
  repo : String
  direct : List String
  indirect : List String
  deriving DecidableEq, Repr

namespace Impact

/-- The number of affected repositories. -/
def affectedCount (i : Impact) : Nat := i.direct.length + i.indirect.length

/-- The level of risk. -/
def risk (i : Impact) : RiskLevel := .ofCount i.affectedCount

/-- An impact as a value. -/
def toValue (i : Impact) : Value :=
  .record [("repo", .text i.repo), ("directly_affected", .texts i.direct),
    ("transitively_affected", .texts i.indirect), ("risk_level", .text i.risk.name)]

end Impact

/-- The repositories that a change affects: directly those with an edge to it, indirectly the others
that reach it. -/
def Store.impact (g : Store) (repo : String) : Except Failure Impact := do
  let types := some EdgeType.dependencyLike
  let dependents ← g.transitive repo types .incoming
  let direct := ((g.predecessors repo types).filter g.isRepo).eraseDups
  let indirect := dependents.filter fun id => !direct.contains id && g.isRepo id
  return ⟨repo, direct, indirect⟩

end CodeGraph

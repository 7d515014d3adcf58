import CodeGraph.Command.GraphQuery
import CodeGraph.Portfolio.Impact
import CodeGraph.Portfolio.Usage

/-!
# Queries on a portfolio

What can be asked of the graph of a portfolio on the command line, and the reports that answer.

Main definitions:

- `PortfolioQuery`: the queries;
- `PortfolioQuery.answer`: the report, or the failure, that answers a query. A version number that
  is too long is a fault of the portfolio.
-/
namespace CodeGraph

/-- A query on a portfolio. -/
inductive PortfolioQuery where
  /-- What a change to a repository affects. -/
  | impact (repo : String)
  /-- The packages that at least so many repositories use. -/
  | shared (minCount : Int)
  /-- The version constraints on each dependency. -/
  | versions
  /-- The dependencies whose constraints ask for different major versions. -/
  | conflicts
  /-- An order in which to upgrade the repositories. -/
  | order
  /-- Circular dependencies. -/
  | cycles (atMost : Option Int)
  /-- The length of the longest chain of dependencies below a repository. -/
  | depth (repo : String)
  /-- Everything that depends on a repository. -/
  | dependents (repo : String) (includeDev : Bool)
  deriving DecidableEq, Repr

namespace PortfolioQuery

/-- The style in which a level of risk is shown. -/
def riskStyle : RiskLevel → String
  | .low => "green"
  | .medium => "yellow"
  | .high => "red"
  | .critical => "bold red"

/-- Names with commas between them, or a dash when there are none. -/
def namesOrDash (names : List String) : String :=
  let joined := String.intercalate ", " names
  if joined.isEmpty then "-" else joined

/-- What a change affects. -/
def impactReport (i : Impact) : Report where
  value := i.toValue
  blocks :=
    [.line ("\n[bold cyan]" ++ i.repo ++ "[/] risk: [" ++ riskStyle i.risk ++ "]" ++ i.risk.name ++
        "[/]"),
      .line ("  Directly affected: " ++ namesOrDash i.direct),
      .line ("  Transitively affected: " ++ namesOrDash i.indirect)]

/-- Packages and the repositories that use them. -/
def sharedReport (shared : List SharedDependency) : Report where
  value := .list (shared.map SharedDependency.toValue)
  blocks :=
    [.grid ⟨["Dependency", "Repos", "Used by"],
      shared.map fun s => [s.dependency, toString s.count, String.intercalate ", " s.usedBy]⟩]

/-- The version constraints on one dependency for a reader. -/
def versionLines (v : DependencyVersions) : List Block :=
  .line ("[cyan]" ++ v.dependency ++ "[/]") ::
    v.declarations.map fun d =>
      .line ("  " ++ d.repo ++ ": " ++ d.version ++ (if d.dev then " [dim](dev)[/]" else ""))

/-- The version constraints on all dependencies. -/
def versionsReport (versions : List DependencyVersions) : Report where
  value := .list (versions.map DependencyVersions.toValue)
  blocks := versions.flatMap versionLines

/-- A conflict for a reader. -/
def conflictLines (c : VersionConflict) : List Block :=
  .line ("[yellow]" ++ c.dependency ++ "[/] [dim](majors " ++
      String.intercalate ", " (c.majors.map toString) ++ ")[/]") ::
    c.declarations.map fun d => .line ("  " ++ d.repo ++ ": " ++ d.version)

/-- Conflicts between version constraints. -/
def conflictsReport (conflicts : List VersionConflict) : Report where
  value := .list (conflicts.map VersionConflict.toValue)
  blocks :=
    if conflicts.isEmpty then [.line "[green]No version conflicts[/]"]
    else conflicts.flatMap conflictLines

/-- An order of repositories. -/
def orderReport (order : List String) : Report where
  value := .record [("order", .texts order)]
  blocks := order.mapIdx fun i repo => .line s!"  {i + 1}. [cyan]{repo}[/]"

/-- Circular dependencies. -/
def repoCyclesReport (cycles : List (List String)) : Report where
  value := GraphQuery.cyclesValue cycles
  blocks :=
    if cycles.isEmpty then [.line "[green]No circular dependencies[/]"]
    else cycles.map fun c => .line (GraphQuery.cycleMarkup c)

/-- The depth of a repository. -/
def repoDepthReport (repo : String) (depth : Nat) : Report where
  value := .record [("repo", .text repo), ("depth", .int depth)]
  blocks := [.line s!"[cyan]{repo}[/]: {depth}"]

/-- What depends on a repository. -/
def dependentsReport (repo : String) (dependents : List String) : Report where
  value := .record [("repo", .text repo), ("dependents", .texts dependents)]
  blocks :=
    if dependents.isEmpty then [.line "[dim]No dependents[/]"]
    else dependents.map fun name => .line ("  [cyan]" ++ name ++ "[/]")

/-- The report, or the failure, that answers a query. -/
def answer (g : Store) : PortfolioQuery → Except Fault (Except Failure Report)
  | impact repo => .ok ((g.impact repo).map impactReport)
  | shared minCount => .ok (.ok (sharedReport (g.sharedDependencies minCount)))
  | versions => .ok (.ok (versionsReport g.dependencyVersions))
  | conflicts => g.versionConflicts.map fun found => .ok (conflictsReport found)
  | order => .ok (g.upgradeOrder.map orderReport)
  | cycles atMost => .ok (.ok (repoCyclesReport (g.repoCycles atMost)))
  | depth repo => .ok ((g.dependencyDepth repo).map (repoDepthReport repo))
  | dependents repo includeDev =>
    .ok ((g.allDependents repo includeDev).map (dependentsReport repo))

end PortfolioQuery

end CodeGraph

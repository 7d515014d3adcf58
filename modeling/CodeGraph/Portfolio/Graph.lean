import CodeGraph.Facts.Build
import CodeGraph.Graph.Cycles
import CodeGraph.Graph.Depth
import CodeGraph.Graph.Order
import CodeGraph.Graph.Traversal

/-!
# Portfolio graphs

A portfolio is a list of manifests. Its graph has a node for each repository and for each package
that is no repository, and an edge for each declared dependency. A dependency that goes by the name
of a repository points at that repository, so the edges between repositories show in which order to
upgrade them.

Main definitions:

- `buildPortfolio`: the graph of a portfolio, unless a dependency is refused;
- `portfolioGraph`: the same graph, where no dependency can be refused.
-/
namespace CodeGraph

/-- Add the dependencies that a manifest declares, unless one of them is refused. -/
def Store.declareAll (g : Store) (m : Manifest) : Except MissingEnd Store :=
  match g.declare m with
  | (h, none) => .ok h
  | (_, some missing) => .error missing

/-- The graph of a portfolio, unless a dependency is refused. -/
def buildPortfolio (manifests : List Manifest) : Except MissingEnd Store :=
  manifests.foldlM Store.declareAll ((manifests.map Manifest.node).foldl Store.addNode .empty)

/-- The graph of a portfolio. All repositories are nodes before the first dependency is added, so
no dependency is refused and `declare` is not asked whether it refused one; `buildPortfolio`, which
asks, makes the same graph by `buildPortfolio_eq`. -/
def portfolioGraph (manifests : List Manifest) : Store :=
  manifests.foldl (fun g m => (g.declare m).1)
    ((manifests.map Manifest.node).foldl Store.addNode .empty)

namespace Store

/-- Whether an id is a repository. -/
def isRepo (g : Store) (id : String) : Bool := g.isOfType NodeType.repo id

/-- The ids of the repositories. -/
def repos (g : Store) : List String := (g.nodesOfType NodeType.repo).map (·.id)

/-- The repositories in an order in which they can be upgraded, dependencies first. -/
def upgradeOrder (g : Store) : Except Failure (List String) :=
  match g.topologicalOrder .repoGraph true with
  | some order => .ok order
  | none => .error .cyclicPortfolio

/-- Circular dependencies between repositories, at most so many. -/
def repoCycles (g : Store) (maxCycles : Option Int := none) : List (List String) :=
  g.cycles maxCycles .repoGraph

/-- The length of a longest chain of dependencies from repository to repository. -/
def dependencyDepth (g : Store) (repo : String) : Except Failure Nat :=
  if g.contains repo then
    match g.longestChain repo (some EdgeType.dependencyLike) (some g.repos) with
    | .finite n => .ok n
    | .cyclic => .error (.cyclicDependency repo)
  else .error (.nodeNotFound repo)

/-- Everything that depends on a repository or package, directly or not. Dependencies that are
needed for development only are followed when asked for. -/
def allDependents (g : Store) (repo : String) (includeDev : Bool := false) :
    Except Failure (List String) :=
  g.transitive repo
    (some (if includeDev then EdgeType.dependencyLike else [EdgeType.dependsOn])) .incoming

end Store

end CodeGraph

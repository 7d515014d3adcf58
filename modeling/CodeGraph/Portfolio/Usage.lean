import CodeGraph.Portfolio.Graph
import CodeGraph.Portfolio.Version

/-!
# Shared dependencies and their versions

Which repositories use which packages, with which version constraints, and where the constraints of
one dependency ask for different major versions.
-/
namespace CodeGraph

/-- A package and the repositories that declare it. -/
structure SharedDependency where
  dependency : String
  usedBy : List String
  deriving DecidableEq, Repr

namespace SharedDependency

/-- The number of repositories. -/
def count (s : SharedDependency) : Nat := s.usedBy.length

/-- Whether a shared dependency comes before another: by more users, then by the smaller name. -/
def before (a b : SharedDependency) : Bool :=
  b.count < a.count || (a.count == b.count && a.dependency ≤ b.dependency)

/-- A shared dependency as a value. -/
def toValue (s : SharedDependency) : Value :=
  .record [("dependency", .text s.dependency), ("used_by", .texts s.usedBy),
    ("count", .int s.count)]

end SharedDependency

/-- The version constraint that one repository puts on a dependency. -/
structure Declaration where
  repo : String
  version : String
  dev : Bool := false
  deriving DecidableEq, Repr

/-- All version constraints on one dependency. -/
structure DependencyVersions where
  dependency : String
  declarations : List Declaration
  deriving DecidableEq, Repr

namespace DependencyVersions

/-- The different constraints, in the order of their declarations. -/
def versions (v : DependencyVersions) : List String :=
  (v.declarations.map (·.version)).eraseDups

/-- The constraints as a value. -/
def toValue (v : DependencyVersions) : Value :=
  .record [("dependency", .text v.dependency), ("versions", .texts v.versions),
    ("declarations", .list (v.declarations.map fun d =>
      .record [("repo", .text d.repo), ("version", .text d.version), ("dev", .bool d.dev)]))]

end DependencyVersions

/-- A dependency whose constraints ask for different major versions. -/
structure VersionConflict where
  dependency : String
  declarations : List Declaration
  majors : List Nat
  deriving DecidableEq, Repr

/-- A conflict as a value. Only different major versions count, so all conflicts are major. -/
def VersionConflict.toValue (c : VersionConflict) : Value :=
  .record [("dependency", .text c.dependency),
    ("majors", .list (c.majors.map fun (n : Nat) => .int n)),
    ("severity", .text "major"),
    ("repos", .list (c.declarations.map fun d =>
      .record [("repo", .text d.repo), ("version", .text d.version)]))]

namespace Store

/-- The packages that at least so many repositories declare, the most used first. -/
def sharedDependencies (g : Store) (minCount : Int := 1) : List SharedDependency :=
  let all := (g.nodesOfType NodeType.dependency).map fun n =>
    SharedDependency.mk n.id (g.predecessors n.id (some EdgeType.dependencyLike)).eraseDups
  (all.filter fun s => minCount ≤ s.count).mergeSort SharedDependency.before

/-- The declaration that an edge from a repository makes, if it names a version. -/
def declaration? (repo : String) (e : Edge) : Option Declaration :=
  match e.metadata.get? "version" with
  | none => none
  | some v =>
    if v.isEmptyLike then none else some ⟨repo, v.display, e.type == EdgeType.devDependsOn⟩

/-- All declarations of a portfolio with the names of their dependencies, repository by
repository. -/
def declarations (g : Store) : List (String × Declaration) :=
  g.repos.flatMap fun repo =>
    (g.outgoing repo (some EdgeType.dependencyLike)).filterMap fun e =>
      (declaration? repo e).map fun d => (e.target, d)

/-- The version constraints on each dependency. One that is declared without a version everywhere
is left out. -/
def dependencyVersions (g : Store) : List DependencyVersions :=
  (Table.group g.declarations).entries.map fun e => ⟨e.1, e.2⟩

/-- The declarations whose constraint starts with a major version, each with that version. -/
def comparable (ds : List Declaration) : Except Fault (List (Declaration × Nat)) := do
  let parsed ← ds.mapM fun d => do
    let major ← Version.major? d.version
    return major.map fun n => (d, n)
  return parsed.filterMap id

/-- The dependencies whose constraints ask for different major versions. Constraints that do not
start with a number are left out of the comparison. -/
def versionConflicts (g : Store) : Except Fault (List VersionConflict) := do
  let found ← g.dependencyVersions.mapM fun v => do
    let pairs ← comparable v.declarations
    let majors := (pairs.map (·.2)).eraseDups.mergeSort
    return if 1 < majors.length then some ⟨v.dependency, pairs.map (·.1), majors⟩ else none
  return found.filterMap id

end Store

end CodeGraph

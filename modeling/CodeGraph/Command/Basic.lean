import CodeGraph.Command.Arguments
import CodeGraph.Command.PortfolioQuery
import CodeGraph.Command.WholeNumber
import CodeGraph.Files.Path

/-!
# Commands

A command line asks one query, of the graph in a file of facts or of a portfolio, and says in which
form to print the answer. The file may also be named in the environment.

Main definitions:

- `Command.parse?`: the command that a command line stands for, if it stands for one.
-/
namespace CodeGraph

/-- Where the manifests of a portfolio come from. -/
inductive PortfolioSource where
  | file (path : Path)
  | scan (directory : Path)
  deriving DecidableEq, Repr

/-- A query with the place to take its graph from, when one is given. -/
inductive Query where
  | ofFacts (facts : Option Path) (query : GraphQuery)
  | ofPortfolio (source : Option PortfolioSource) (query : PortfolioQuery)
  deriving DecidableEq, Repr

/-- A command: a query, and whether to print the answer as JSON. -/
structure Command where
  query : Query
  json : Bool := false
  deriving DecidableEq, Repr

/-- The variables of the environment. -/
abbrev Environment := String → Option String

/-- The variable that names the file of facts. -/
def factsVariable : String := "REPOGRAPH_GRAPH"

/-- The variable that names the portfolio file. -/
def portfolioVariable : String := "REPOGRAPH_PORTFOLIO"

/-- The path that a variable names. An empty variable names none. -/
def Environment.path? (env : Environment) (name : String) : Option Path :=
  ((env name).filter fun s => !s.isEmpty).map Path.ofText

namespace Command

/-- The option for JSON, which all commands know. -/
def jsonForm : OptionForm := { name := "json", letter := some 'j' }

/-- The option for the file of facts. -/
def factsForm : OptionForm := { name := "graph", letter := some 'g', takesValue := true }

/-- The option for the portfolio file. -/
def portfolioForm : OptionForm := { name := "portfolio", letter := some 'p', takesValue := true }

/-- The option for the directory to scan. -/
def scanForm : OptionForm := { name := "scan", letter := some 's', takesValue := true }

/-- The option for indirect callers and callees. -/
def indirectForm : OptionForm := { name := "transitive", letter := some 't' }

/-- The option for a depth. -/
def depthForm : OptionForm := { name := "depth", letter := some 'd', takesValue := true }

/-- The option for a number of cycles. -/
def maxForm : OptionForm := { name := "max", letter := some 'm', takesValue := true }

/-- The option for the size of a ranking. -/
def limitForm : OptionForm := { name := "limit", letter := some 'n', takesValue := true }

/-- The option for a number of users. -/
def minCountForm : OptionForm := { name := "min-count", letter := some 'm', takesValue := true }

/-- The option to follow dependencies that are needed for development only. -/
def includeDevForm : OptionForm := { name := "include-dev" }

/-- The number given for an option; a default when none is given, nothing when it is no number. -/
def intOr? (a : Arguments) (form : OptionForm) (default : Int) : Option Int :=
  match a.value? form.name with
  | none => some default
  | some s => WholeNumber.read? s

/-- The number given for an option that may be left out. -/
def int?? (a : Arguments) (form : OptionForm) : Option (Option Int) :=
  match a.value? form.name with
  | none => some none
  | some s => (WholeNumber.read? s).map some

/-- The only positional argument. -/
def single? (a : Arguments) : Option String :=
  match a.positional with
  | [s] => some s
  | _ => none

/-- A value for commands without positional arguments. -/
def alone? {α : Type} (a : Arguments) (v : α) : Option α :=
  if a.positional.isEmpty then some v else none

/-- The query for callers or callees. -/
def related? (direction : Direction) (a : Arguments) : Option GraphQuery := do
  let id ← single? a
  let maxDepth ← int?? a depthForm
  return .related direction id (a.has indirectForm.name) maxDepth

/-- The commands on a call graph: their own options and the queries they stand for. -/
def graphCommand? : String → Option (List OptionForm × (Arguments → Option GraphQuery))
  | "stats" => some ([], fun a => alone? a .stats)
  | "callers" => some ([indirectForm, depthForm], related? .incoming)
  | "callees" => some ([indirectForm, depthForm], related? .outgoing)
  | "path" => some ([depthForm], fun a =>
    match a.positional with
    | [source, target] => (intOr? a depthForm defaultMaxHops).map (.path source target)
    | _ => none)
  | "cycles" => some ([maxForm], fun a => (int?? a maxForm).bind fun k => alone? a (.cycles k))
  | "hot" => some ([limitForm], fun a =>
    (intOr? a limitForm defaultRankingSize).bind fun k => alone? a (.mostConnected k))
  | "depth" => some ([], fun a =>
    match a.positional with
    | [] => some (.depth none)
    | [id] => some (.depth (some id))
    | _ => none)
  | "entry-points" => some ([], fun a => alone? a .entryPoints)
  | "leaves" => some ([], fun a => alone? a .leaves)
  | "module" => some ([], fun a => (single? a).map .moduleCalls)
  | _ => none

/-- The number of users from which a dependency is shown as shared. -/
def defaultMinCount : Int := 2

/-- The commands on a portfolio: their own options and the queries they stand for. -/
def portfolioCommand? : String → Option (List OptionForm × (Arguments → Option PortfolioQuery))
  | "impact" => some ([], fun a => (single? a).map .impact)
  | "shared" => some ([minCountForm], fun a =>
    (intOr? a minCountForm defaultMinCount).bind fun k => alone? a (.shared k))
  | "versions" => some ([], fun a => alone? a .versions)
  | "conflicts" => some ([], fun a => alone? a .conflicts)
  | "order" => some ([], fun a => alone? a .order)
  | "cycles" => some ([maxForm], fun a => (int?? a maxForm).bind fun k => alone? a (.cycles k))
  | "depth" => some ([], fun a => (single? a).map .depth)
  | "dependents" => some ([includeDevForm], fun a =>
    (single? a).map fun repo => .dependents repo (a.has includeDevForm.name))
  | _ => none

/-- The path given for an option that may be left out. No path holds a null. -/
def path?? (a : Arguments) (form : OptionForm) : Option (Option Path) :=
  match (a.value? form.name).map Path.ofText with
  | none => some none
  | some p => if p.hasNull then none else some (some p)

/-- The command on a call graph with a name and arguments. -/
def parseGraph? (env : Environment) (name : String) (args : List String) : Option Command := do
  let (forms, build) ← graphCommand? name
  let a ← Arguments.read? (factsForm :: jsonForm :: forms) true args
  let query ← build a
  let facts ← path?? a factsForm
  return ⟨.ofFacts (facts.orElse fun _ => env.path? factsVariable) query, a.has jsonForm.name⟩

/-- Where a command takes its portfolio from. A directory to scan counts before a file. -/
def source?? (env : Environment) (a : Arguments) : Option (Option PortfolioSource) := do
  let file ← path?? a portfolioForm
  let directory ← path?? a scanForm
  match directory with
  | some directory => return some (.scan directory)
  | none => return (file.orElse fun _ => env.path? portfolioVariable).map .file

/-- The command on a portfolio with a name and arguments. -/
def parsePortfolio? (env : Environment) (name : String) (args : List String) : Option Command := do
  let (forms, build) ← portfolioCommand? name
  let a ← Arguments.read? (portfolioForm :: scanForm :: jsonForm :: forms) true args
  let query ← build a
  let source ← source?? env a
  return ⟨.ofPortfolio source query, a.has jsonForm.name⟩

/-- The option for more messages, which goes before the command. -/
def verboseForm : OptionForm := { name := "verbose", letter := some 'v' }

/-- The command that a command line stands for. -/
def parse? (env : Environment) (args : List String) : Option Command := do
  let a ← Arguments.read? [verboseForm] false args
  match a.positional with
  | [] => none
  | "portfolio" :: rest => do
    let b ← Arguments.read? [] false rest
    match b.positional with
    | [] => none
    | name :: rest => parsePortfolio? env name rest
  | name :: rest => parseGraph? env name rest

end Command

end CodeGraph

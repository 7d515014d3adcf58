import CodeGraph.Command.Basic
import CodeGraph.Facts.Load
import CodeGraph.Manifest.Scan
import CodeGraph.Portfolio.Load

/-!
# Running commands

A command loads its graph, asks its query and prints the report. It ends with code 0 when the query
is answered and 1 when the query fails or the graph cannot be had; a command line that is no command
ends with code 2. Errors of the library are reported on the error console; other errors and faulty
markup end the command where they arise.

Main definitions:

- `Outcome`: what a command leaves behind;
- `Command.run`: the outcome of a command;
- `runArguments`: the outcome of a command line.
-/
namespace CodeGraph

/-- What ends a command without a report. -/
inductive Abort where
  | error (e : Error)
  | markup (f : Markup.Fault)
  deriving Repr

/-- The message of an abort. -/
def Abort.message : Abort → String
  | .error e => e.message
  | .markup f => f.message

/-- What a command leaves behind: its exit code, what it printed, what it reported, and what ended
it early. -/
structure Outcome where
  exitCode : Nat := 0
  output : String := ""
  reported : String := ""
  abort : Option Abort := none

namespace Outcome

/-- The outcome of a command that printed something and would end with a code. -/
def ofPrinted (exitCode : Nat) (p : Printed) : Outcome :=
  match p.fault with
  | none => { exitCode := exitCode, output := p.text }
  | some f => { exitCode := 1, output := p.text, abort := some (.markup f) }

/-- The outcome of a command that reports an error. -/
def ofReport (message : String) : Outcome :=
  let p := Block.print [.line ("[red]Error:[/red] " ++ message)]
  { exitCode := 1, reported := p.text, abort := p.fault.map .markup }

/-- The outcome of a command that meets an error. -/
def ofError (e : Error) : Outcome :=
  if e.isReported then ofReport e.message else { exitCode := 1, abort := some (.error e) }

/-- The outcome of a query. -/
def ofAnswer (json : Bool) : Except Failure Report → Outcome
  | .ok r => ofPrinted 0 (r.print json)
  | .error f => ofPrinted 1 (Printed.ofFailure f json)

/-- The outcome of a command line that is no command. -/
def usage : Outcome := { exitCode := 2 }

end Outcome

/-- The manifests of a portfolio. -/
def Files.portfolio (files : Files) : PortfolioSource → Except Error (List Manifest)
  | .scan directory => (files.scan directory).result
  | .file path => files.loadPortfolio path

namespace Command

/-- What is reported when a command names no portfolio. -/
def noSourceMessage : String := "pass --portfolio FILE or --scan DIR"

/-- The outcome of a command. -/
def run (files : Files) (c : Command) : Outcome :=
  match c.query with
  | .ofFacts facts query =>
    match files.loadGraph (facts.getD files.directory.defaultFacts) with
    | .error e => .ofError e
    | .ok built => .ofAnswer c.json (query.answer built.graph)
  | .ofPortfolio none _ => .ofReport noSourceMessage
  | .ofPortfolio (some source) query =>
    match files.portfolio source with
    | .error e => .ofError e
    | .ok manifests =>
      match query.answer (portfolioGraph manifests) with
      | .error f => .ofError (.fault f)
      | .ok answer => .ofAnswer c.json answer

end Command

/-- The outcome of a command line. -/
def runArguments (env : Environment) (files : Files) (args : List String) : Outcome :=
  match Command.parse? env args with
  | none => .usage
  | some c => c.run files

end CodeGraph

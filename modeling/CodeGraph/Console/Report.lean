import CodeGraph.Console.Grid
import CodeGraph.Graph.Failure
import CodeGraph.Json.Printer

/-!
# Reports

The answer to a query in its two forms: as a value, which is printed as JSON on one line, and as
lines and grids for a reader.

Main definitions:

- `Report.print`: a report in the form asked for.
-/
namespace CodeGraph

/-- A piece of a report for a reader. A line may hold markup and line feeds. -/
inductive Block where
  | line (markup : String)
  | grid (g : Grid)
  deriving DecidableEq, Repr

/-- The answer to a query. -/
structure Report where
  value : Value
  blocks : List Block

/-- What was printed, and the fault that ended the printing. -/
structure Printed where
  text : String := ""
  fault : Option Markup.Fault := none
  deriving DecidableEq, Repr

namespace Block

/-- The lines that a block shows. -/
def shownLines : Block → Except Markup.Fault (List (List Char))
  | .line markup => Console.shownLines markup
  | .grid g => g.render

/-- Print blocks in order, up to the first one with a fault. -/
def print : List Block → Printed
  | [] => {}
  | b :: bs =>
    match b.shownLines with
    | .error f => ⟨"", some f⟩
    | .ok lines =>
      let rest := print bs
      { rest with
        text := String.ofList (lines.flatMap fun cs => cs ++ ['\n']) ++ rest.text }

end Block

/-- A value on a line of its own. -/
def Printed.ofValue (v : Value) : Printed := ⟨Json.line v ++ "\n", none⟩

/-- A report as JSON or for a reader. -/
def Report.print (r : Report) (json : Bool) : Printed :=
  if json then .ofValue r.value else Block.print r.blocks

/-- A failure as JSON or for a reader. -/
def Printed.ofFailure (f : Failure) (json : Bool) : Printed :=
  if json then .ofValue f.toValue
  else Block.print [.line ("[red]" ++ f.kind ++ ":[/red] " ++ f.detail)]

end CodeGraph

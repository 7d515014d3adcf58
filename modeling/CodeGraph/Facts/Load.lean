import CodeGraph.Error
import CodeGraph.Facts.Build

/-!
# Loading facts

Facts are kept as JSON in a file. A file that cannot be read, is not JSON or does not have the shape
of facts is refused with an error that says which of these it is.

Main definitions:

- `Facts.read`: the facts that a value describes;
- `Files.loadFacts`: the facts in a file;
- `Files.loadGraph`: the graph of the facts in a file.
-/
namespace CodeGraph

/-- The facts that a value describes. A value of another shape is malformed. -/
def Facts.read (v : Value) : Except Error Facts :=
  match Facts.ofValue v with
  | .ok facts => .ok facts
  | .error f => .error (if f.isShape then .facts (.malformed f) else .fault f)

/-- The path of the facts of a project. -/
def Path.defaultFacts (project : Path) : Path := (project.join ".repograph").join "graph.json"

namespace Files

/-- What a fault of a file of facts is. -/
def factsTextError (p : Path) : TextFault → Error
  | .unreadable f => .facts (.unreadable p f)
  | .undecodable f => .encoding f

/-- The JSON value in a file of facts. -/
def readFactsValue (files : Files) (p : Path) : Except Error Value :=
  match files.textOr p (factsTextError p) with
  | .error e => .error e
  | .ok cs =>
    match Json.read cs with
    | .error (.badSyntax f) => .error (.facts (.badJson p f))
    | .error (.badValue f) => .error (.fault f)
    | .ok v => .ok v

/-- The facts in a file. -/
def loadFacts (files : Files) (p : Path) : Except Error Facts :=
  match files.readFactsValue p with
  | .error e => .error e
  | .ok (.object entries) => Facts.read (.object entries)
  | .ok _ => .error (.facts (.notAnObject p))

/-- The graph of the facts in a file. -/
def loadGraph (files : Files) (p : Path) (skipDangling : Bool := false) : Except Error Built :=
  match files.loadFacts p with
  | .error e => .error e
  | .ok facts => (facts.build skipDangling).mapError .missingEnd

end Files

end CodeGraph

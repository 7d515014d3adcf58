import CodeGraph.Text.Split
import CodeGraph.Toml.Moment
import CodeGraph.Toml.Nest
import CodeGraph.Toml.Number
import CodeGraph.Toml.Text

/-!
# TOML: values

Texts, truth values, lists, tables on one line, dates and times, and numbers. Lists may span lines,
hold comments and end with a comma. A table on one line does none of that, and a list or table in it
is complete where it stands: no later key leads into it. Lists and tables on one line are nested up
to a limit.

Main definitions:

- `value`, `items`, `pairs`: the grammar, structural on a bound for the depth.
-/
namespace CodeGraph.Toml

/-- A table on one line while it is read: its entries and the paths that no later key may enter. -/
structure InlineTable where
  entries : Entries := []
  complete : List (List String) := []

/-- Add a pair to a table on one line. -/
def InlineTable.add (t : InlineTable) (path : List String) (v : Value) : Option InlineTable := do
  let name ← path.getLast?
  if isBelow t.complete path then none
  else
    let entries ← within false (addEntry name v) path.dropLast t.entries
    return ⟨entries, if isNest v then path :: t.complete else t.complete⟩

/-- A value that is neither a list nor a table. -/
def scalar (cs : List Char) : Result Value :=
  match quotedText? cs with
  | some r => r.map fun t => (.text t.1, t.2)
  | none =>
    match Text.dropPrefix? "true".toList cs, Text.dropPrefix? "false".toList cs with
    | some rest, _ => .ok (.bool true, rest)
    | _, some rest => .ok (.bool false, rest)
    | none, none =>
      match moment? cs with
      | some r => r.map fun m => (.moment m.1, m.2)
      | none => (number? cs).getD (.error .badSyntax)

/-- How deep lists and tables on one line may be nested, by weight. Neither the format nor a reader
names this number: it stands for the recursion limit of the interpreter that a reader runs on, less
the frames of its callers. A weight is the number of frames that one list or table takes. -/
def maxWeight : Nat := 980

/-- The weight of a list in a nest. -/
def listWeight : Nat := 2

/-- The weight of a table on one line in a nest. -/
def tableWeight : Nat := 3

/-- The fault of a nest that weighs too much. -/
def tooDeep : ReadFault := .badValue (.tooDeep "")

mutual

/-- A value at the front of a text, given the weight that a nest may add. -/
def value : Nat → Nat → List Char → Result Value
  | 0, _, _ => .error .badSyntax
  | depth + 1, room, cs =>
    match cs with
    | '[' :: ds =>
      if room < listWeight then .error tooDeep else items depth (room - listWeight) [] ds
    | '{' :: ds =>
      if room < tableWeight then .error tooDeep
      else
        match skipSpaces ds with
        | '}' :: es => .ok (.object [], es)
        | es => pairs depth (room - tableWeight) {} es
    | _ => scalar cs

/-- The rest of a list, given the members before it, last one first. -/
def items : Nat → Nat → List Value → List Char → Result Value
  | 0, _, _, _ => .error .badSyntax
  | depth + 1, room, done, cs =>
    match skipFiller false cs with
    | .error f => .error f
    | .ok (']' :: ds) => .ok (.list done.reverse, ds)
    | .ok ds =>
      match value depth room ds with
      | .error f => .error f
      | .ok (v, es) =>
        match skipFiller false es with
        | .error f => .error f
        | .ok (']' :: fs) => .ok (.list (v :: done).reverse, fs)
        | .ok (',' :: fs) => items depth room (v :: done) fs
        | .ok _ => .error .badSyntax

/-- The rest of a table on one line from one of its keys on. -/
def pairs : Nat → Nat → InlineTable → List Char → Result Value
  | 0, _, _, _ => .error .badSyntax
  | depth + 1, room, table, cs =>
    match pair depth room cs with
    | .error f => .error f
    | .ok ((path, v), ds) =>
      match table.add path v with
      | none => .error .badSyntax
      | some table =>
        match skipSpaces ds with
        | '}' :: es => .ok (.object table.entries, es)
        | ',' :: es => pairs depth room table (skipSpaces es)
        | _ => .error .badSyntax

/-- A key and its value. -/
def pair : Nat → Nat → List Char → Result (List String × Value)
  | 0, _, _ => .error .badSyntax
  | depth + 1, room, cs =>
    match key cs with
    | .error f => .error f
    | .ok (path, '=' :: ds) =>
      match value depth room (skipSpaces ds) with
      | .error f => .error f
      | .ok (v, es) => .ok ((path, v), es)
    | .ok _ => .error .badSyntax

end

/-- A key and its value at the front of a text. The bound suffices, because no character opens more
than three levels. -/
def keyValue (cs : List Char) : Result (List String × Value) :=
  pair (3 * cs.length + 3) maxWeight cs

end CodeGraph.Toml

import CodeGraph.Toml.Value

/-!
# TOML: documents

A document is a sequence of statements, one a line: pairs of a key and a value, headers of tables
and headers of list members. Pairs go into the table of the last header. What was written completely
may not be added to: a table has one header, a table that dotted keys made gets none, and a list or
table that was written as a value stays as it is.

Main definitions:

- `Tables`: the document so far, with what may no longer be opened;
- `Tables.openTable`, `Tables.openMember`, `Tables.addPair`: the three statements;
- `read`: a whole document.
-/
namespace CodeGraph.Toml

/-- A document while it is read. -/
structure Tables where
  /-- The entries of the whole document. -/
  entries : Entries := []
  /-- The path of the table that pairs go into. -/
  header : List String := []
  /-- Lists and tables that were written as values: nothing below them may change. -/
  complete : List (List String) := []
  /-- Tables that no header and no dotted key may open. -/
  closed : List (List String) := []
  /-- Tables that dotted keys opened; they are closed at the next header. -/
  opened : List (List String) := []

namespace Tables

/-- Close what dotted keys opened. -/
def closeOpened (t : Tables) : Tables := { t with closed := t.opened ++ t.closed, opened := [] }

/-- The header of a table. -/
def openTable (t : Tables) (path : List String) : Option Tables :=
  if t.closed.contains path || isBelow t.complete path then none
  else do
    let entries ← within true some path t.entries
    return { t with entries := entries, header := path, closed := path :: t.closed }

/-- The header of a new member of a list of tables. What was said of the member before it no longer
holds. -/
def openMember (t : Tables) (path : List String) : Option Tables :=
  if isBelow t.complete path then none
  else do
    let name ← path.getLast?
    let entries ← within true (addToList name) path.dropLast t.entries
    let outside := fun p : List String => !path.isPrefixOf p
    return { t with
      entries := entries
      header := path
      complete := t.complete.filter outside
      closed := path :: t.closed.filter outside }

/-- The paths of the tables that a dotted key leads through, below a header. -/
def passed (header path : List String) : List (List String) :=
  (List.range (path.length - 1)).map fun i => header ++ path.take (i + 1)

/-- A pair of a key and a value. -/
def addPair (t : Tables) (path : List String) (v : Value) : Option Tables :=
  let through := passed t.header path
  let home := t.header ++ path.dropLast
  if through.any t.closed.contains || isBelow t.complete home then none
  else do
    let name ← path.getLast?
    let entries ← within true (addEntry name v) home t.entries
    return { t with
      entries := entries
      complete := if isNest v then (t.header ++ path) :: t.complete else t.complete
      opened := through ++ t.opened }

end Tables

/-- A header: its brackets, the key between them, and what it does. -/
def header (opening closing : String) (change : List String → Option Tables) (cs : List Char) :
    Except ReadFault (Tables × List Char) := do
  let (path, cs) ← key (skipSpaces (cs.drop opening.length))
  match change path, Text.dropPrefix? closing.toList cs with
  | some t, some rest => .ok (t, rest)
  | _, _ => .error .badSyntax

/-- Whether a key may start with a character. -/
def startsKey (c : Char) : Bool := isBare c || c == '"' || c == '\''

/-- One statement at the front of a text that is not at its end. -/
def statement (t : Tables) (cs : List Char) : Except ReadFault (Tables × List Char) :=
  match cs with
  | '[' :: '[' :: _ => header "[[" "]]" t.closeOpened.openMember cs
  | '[' :: _ => header "[" "]" t.closeOpened.openTable cs
  | '#' :: _ => .ok (t, cs)
  | c :: _ =>
    if startsKey c then do
      let ((path, v), rest) ← keyValue cs
      match t.addPair path v with
      | some t => .ok (t, rest)
      | none => .error .badSyntax
    else .error .badSyntax
  | [] => .ok (t, [])

/-- Read statements to the end of the text. -/
def statements : Nat → Tables → List Char → Except ReadFault Tables
  | 0, _, _ => .error .badSyntax
  | fuel + 1, t, cs =>
    match skipSpaces cs with
    | [] => .ok t
    | '\n' :: rest => statements fuel t rest
    | ds => do
      let (t, rest) ← statement t ds
      match ← skipComment (skipSpaces rest) with
      | [] => .ok t
      | '\n' :: rest => statements fuel t rest
      | _ => .error .badSyntax

/-- The table that a whole document describes. -/
def read (cs : List Char) : Except ReadFault Value :=
  (statements (cs.length + 1) {} cs).map fun t => .object t.entries

end CodeGraph.Toml

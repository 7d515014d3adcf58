import CodeGraph.Document.Value

/-!
# TOML: tables inside tables

A key with several parts leads through tables inside tables, and through the last member of a list
of tables. Tables that are missing on the way are made.
-/
namespace CodeGraph.Toml

/-- The entries of a table. -/
abbrev Entries := List (Key × Value)

/-- Change the table that a path leads to. No table stands behind any other value, so there the
change fails; the flag tells whether lists of tables are entered. -/
def within (entersLists : Bool) (change : Entries → Option Entries) :
    List String → Entries → Option Entries
  | [], table => change table
  | k :: path, table =>
    match Value.lookup? (.text k) table with
    | none => do
      let inner ← within entersLists change path []
      return Value.setEntry (.text k) (.object inner) table
    | some (.object inner) => do
      let inner ← within entersLists change path inner
      return Value.setEntry (.text k) (.object inner) table
    | some (.list items) =>
      match entersLists, items.getLast? with
      | true, some (.object inner) => do
        let inner ← within entersLists change path inner
        return Value.setEntry (.text k) (.list (items.dropLast ++ [.object inner])) table
      | _, _ => none
    | some _ => none

/-- Add an entry whose key must be new. -/
def addEntry (name : String) (v : Value) (table : Entries) : Option Entries :=
  match Value.lookup? (.text name) table with
  | some _ => none
  | none => some (Value.setEntry (.text name) v table)

/-- Add an empty table to the list under a key, which is made when it is missing. -/
def addToList (name : String) (table : Entries) : Option Entries :=
  match Value.lookup? (.text name) table with
  | some (.list items) =>
    some (Value.setEntry (.text name) (.list (items ++ [.object []])) table)
  | some _ => none
  | none => some (Value.setEntry (.text name) (.list [.object []]) table)

/-- Whether a value is a list or a table. -/
def isNest : Value → Bool
  | .list _ => true
  | .object _ => true
  | _ => false

/-- Whether a path is one of some paths or leads on from one. -/
def isBelow (paths : List (List String)) (path : List String) : Bool :=
  paths.any (·.isPrefixOf path)

end CodeGraph.Toml

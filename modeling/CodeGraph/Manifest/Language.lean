/-!
# Languages of repositories

The languages whose manifests are understood, with their names and the files that show them.
-/
namespace CodeGraph

/-- The languages whose manifests are understood. -/
inductive Language where
  | elixir
  | python
  | javascript
  deriving DecidableEq, Repr

namespace Language

/-- All languages, in the order in which they are looked for. -/
def all : List Language := [elixir, python, javascript]

/-- The name of a language. -/
def name : Language → String
  | elixir => "elixir"
  | python => "python"
  | javascript => "javascript"

/-- The language with a name. -/
def ofName? (s : String) : Option Language := all.find? fun l => l.name == s

/-- The files any of which shows that a repository is of a language. -/
def manifestFiles : Language → List String
  | elixir => ["mix.exs"]
  | python => ["requirements.txt", "pyproject.toml"]
  | javascript => ["package.json"]

end Language

end CodeGraph

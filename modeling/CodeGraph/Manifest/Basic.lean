import CodeGraph.Document.Access

/-!
# Manifests

What a repository says it depends on: packages or other repositories by name, with a version
constraint or without one, needed to run or for development only.

A dependency may be written as its name alone. A version that is empty or counts as absent is no
version.
-/
namespace CodeGraph

/-- A declared dependency. -/
structure Dependency where
  name : String
  version : Option String := none
  deriving DecidableEq, Repr, Inhabited

/-- The dependencies that one repository declares. The language is kept as it was written. -/
structure Manifest where
  name : String
  dependencies : List Dependency := []
  devDependencies : List Dependency := []
  language : Value := .null
  deriving Repr, Inhabited

namespace Dependency

/-- The version constraint, if it says anything. -/
def constraint? (d : Dependency) : Option String := d.version.filter fun v => !v.isEmpty

/-- A version constraint as a text; a value that counts as absent is none. -/
def versionOf (v : Value) : Option String := if v.isEmptyLike then none else some v.display

/-- The dependency that a value describes: a name, or an object with a name and a version. -/
def ofValue : Value → Except Fault Dependency
  | .text name => .ok ⟨name, none⟩
  | v => do
    let version ← v.get "version"
    let name ← v.item "name"
    return ⟨name.display, versionOf version⟩

/-- A dependency as a value, in its short form when it has no version constraint. -/
def toValue (d : Dependency) : Value :=
  match d.constraint? with
  | none => .text d.name
  | some v => .record [("name", .text d.name), ("version", .text v)]

end Dependency

namespace Manifest

/-- The dependencies that a value lists; what counts as absent lists none. -/
def dependenciesOf (v : Value) : Except Fault (List Dependency) := do
  let members ← (v.orElse (.list [])).elements
  members.mapM Dependency.ofValue

/-- The manifest that a value describes. -/
def ofValue (v : Value) : Except Fault Manifest := do
  let name ← v.item "name"
  let dependencies ← v.get "dependencies"
  let dependencies ← dependenciesOf dependencies
  let devDependencies ← v.get "dev_dependencies"
  let devDependencies ← dependenciesOf devDependencies
  let language ← v.get "language"
  return ⟨name.display, dependencies, devDependencies, language⟩

/-- A manifest as a value. -/
def toValue (m : Manifest) : Value :=
  .record [("name", .text m.name), ("language", m.language),
    ("dependencies", .list (m.dependencies.map Dependency.toValue)),
    ("dev_dependencies", .list (m.devDependencies.map Dependency.toValue))]

end Manifest

end CodeGraph

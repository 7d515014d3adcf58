import CodeGraph.Manifest.Basic
import CodeGraph.Manifest.Language

/-!
# Package objects

What the object of a `package.json` declares: a name, the dependencies to run and those to develop,
each an object that maps names to versions.
-/
namespace CodeGraph.PackageJson

/-- The dependencies in the object under a key. What counts as absent declares none. -/
def dependenciesUnder (key : String) (v : Value) : Except Fault (List Dependency) := do
  let table ← v.get key
  let entries ← (table.orElse (.object [])).entries
  return entries.map fun e => ⟨e.1.toValue.display, Dependency.versionOf e.2⟩

/-- The manifest that a package object makes. A package without a name goes by the name of its
directory. -/
def manifest (directory : String) (v : Value) : Except Fault Manifest := do
  let name ← v.get "name"
  let dependencies ← dependenciesUnder "dependencies" v
  let devDependencies ← dependenciesUnder "devDependencies" v
  return {
    name := (name.orElse (.text directory)).display
    dependencies := dependencies
    devDependencies := devDependencies
    language := .text Language.javascript.name }

end CodeGraph.PackageJson

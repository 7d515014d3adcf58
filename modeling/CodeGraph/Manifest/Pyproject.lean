import CodeGraph.Manifest.Language
import CodeGraph.Manifest.Requirement

/-!
# Project tables

What the tables of a `pyproject.toml` declare. The table `project` lists requirements, those to run
and, as extras, optional ones that count as needed for development. The tables of Poetry map names
to versions or to tables with a version; the entry `python` is the interpreter and no dependency.

Main definitions:

- `Pyproject.manifest`: the manifest that the tables make;
- `Pyproject.projectName`: the name that the table `project` gives.
-/
namespace CodeGraph.Pyproject

/-- An empty table. -/
def noTable : Value := .object []

/-- The requirements that a value lists. -/
def requirements (v : Value) : Except Fault (List Dependency) := do
  let members ← v.elements
  let parsed ← members.mapM fun
    | .text s => .ok (Requirement.parse? s)
    | m => .error (.noMember m.kind "split")
  return parsed.filterMap id

/-- The version that a Poetry entry gives: its own text, or that of a table. -/
def poetryVersion : Value → Value
  | .object entries => (Value.lookup? (.text "version") entries).getD .null
  | v => v

/-- A version constraint as a text; a value that counts as absent is none. -/
def versionShown (v : Value) : Except Fault (Option String) :=
  if v.isEmptyLike then .ok none else v.shown.map some

/-- The dependencies in a table of Poetry. -/
def poetryDependencies (v : Value) : Except Fault (List Dependency) := do
  let entries ← v.entries
  let named := entries.filter fun e => e.1 != .text "python"
  named.mapM fun e => do
    let version ← versionShown (poetryVersion e.2)
    return ⟨e.1.toValue.display, version⟩

/-- The name that the table `project` gives, if it gives one. -/
def projectName (document : Value) : Except Fault (Option String) := do
  let project ← document.getD "project" noTable
  let name ← project.get "name"
  if name.isEmptyLike then return none else name.shown.map some

/-- The name of a project: from the table `project`, from Poetry, or that of its directory. -/
def nameOf (directory : String) (project poetry : Value) : Except Fault String := do
  let name ← project.get "name"
  if name.isEmptyLike then
    let name ← poetry.get "name"
    if name.isEmptyLike then return directory else name.shown
  else name.shown

/-- The dependencies of several lists or tables, one after the other. -/
def collect (read : Value → Except Fault (List Dependency)) (vs : List Value) :
    Except Fault (List Dependency) := do
  let lists ← vs.mapM read
  return lists.flatten

/-- The manifest that the tables of a project make. -/
def manifest (directory : String) (document : Value) : Except Fault Manifest := do
  let project ← document.getD "project" noTable
  let tool ← document.getD "tool" noTable
  let poetry ← tool.getD "poetry" noTable
  let name ← nameOf directory project poetry
  let listed ← project.getD "dependencies" (.list [])
  let needed ← requirements listed
  let extras ← project.getD "optional-dependencies" noTable
  let extras ← extras.fields
  let optional ← collect requirements extras
  let table ← poetry.getD "dependencies" noTable
  let poetryNeeded ← poetryDependencies table
  let table ← poetry.getD "dev-dependencies" noTable
  let poetryDev ← poetryDependencies table
  let groups ← poetry.getD "group" noTable
  let groups ← groups.fields
  let grouped ← collect (fun group => do
    let table ← group.getD "dependencies" noTable
    poetryDependencies table) groups
  return {
    name := name
    dependencies := needed ++ poetryNeeded
    devDependencies := optional ++ poetryDev ++ grouped
    language := .text Language.python.name }

end CodeGraph.Pyproject

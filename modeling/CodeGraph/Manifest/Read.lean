import CodeGraph.Error
import CodeGraph.Json.Reader
import CodeGraph.Manifest.Language
import CodeGraph.Manifest.MixProject
import CodeGraph.Manifest.PackageJson
import CodeGraph.Manifest.Pyproject
import CodeGraph.Text.Lines
import CodeGraph.Toml.Document

/-!
# Reading manifests

The manifest of a repository stands in a file whose name tells the language: `mix.exs`,
`requirements.txt` or `pyproject.toml`, or `package.json`. When a repository has several, the first
language of this list counts.

Main definitions:

- `Files.detectLanguage`: the language of a repository;
- `Files.readManifest`: the manifest of a repository.
-/
namespace CodeGraph

namespace Files

/-- Whether a repository has a manifest of a language. -/
def supports (files : Files) (repo : Path) (l : Language) : Bool :=
  l.manifestFiles.any fun name => files.isFile (repo.join name)

/-- The language of the first manifest in a repository. -/
def detectLanguage (files : Files) (repo : Path) : Option Language :=
  Language.all.find? (files.supports repo)

/-- The text of a manifest file. -/
def manifestText (files : Files) (p : Path) : Except Error (List Char) :=
  files.textOr p fun f => .manifest (.unreadable p f)

/-- The tables of a TOML file. -/
def tomlTables (files : Files) (p : Path) : Except Error Value := do
  let cs ← files.manifestText p
  match Toml.read cs with
  | .ok v => return v
  | .error .badSyntax => throw (.manifest (.badToml p))
  | .error (.badValue f) => throw (.fault f)

/-- The object in a JSON file. -/
def jsonObject (files : Files) (p : Path) : Except Error Value := do
  let cs ← files.manifestText p
  match Json.read cs with
  | .ok (.object entries) => return .object entries
  | .ok _ => throw (.manifest (.notAnObject p))
  | .error (.badSyntax f) => throw (.manifest (.badJson p f))
  | .error (.badValue f) => throw (.fault f)

/-- The requirements that the lines of a file declare. -/
def requirementsFile (files : Files) (p : Path) : Except Error (List Dependency) := do
  let cs ← files.manifestText p
  return Requirement.parseLines ((Text.lines cs).map String.ofList)

/-- The files with requirements that are needed for development only. -/
def devRequirementsFiles : List String :=
  ["requirements-dev.txt", "requirements_dev.txt", "dev-requirements.txt"]

/-- The manifest in the requirements files of a repository. A project file beside them gives the
name. -/
def readRequirements (files : Files) (repo : Path) : Except Error Manifest := do
  let dependencies ← files.requirementsFile (repo.join "requirements.txt")
  let devFiles := (devRequirementsFiles.map repo.join).filter files.isFile
  let devDependencies ← devFiles.mapM files.requirementsFile
  let project := repo.join "pyproject.toml"
  let name ←
    if files.isFile project then do
      let tables ← files.tomlTables project
      (Pyproject.projectName tables).mapError .fault
    else pure none
  return {
    name := name.getD repo.name
    dependencies := dependencies
    devDependencies := devDependencies.flatten
    language := .text Language.python.name }

/-- The manifest of a repository in a given language. -/
def readManifestAs (files : Files) (repo : Path) : Language → Except Error Manifest
  | .elixir => do
    let p := repo.join "mix.exs"
    let cs ← files.manifestText p
    match MixProject.read? repo.name cs with
    | some m => return m
    | none => throw (.manifest (.notAMixProject p))
  | .python =>
    if files.isFile (repo.join "requirements.txt") then files.readRequirements repo
    else do
      let tables ← files.tomlTables (repo.join "pyproject.toml")
      (Pyproject.manifest repo.name tables).mapError .fault
  | .javascript => do
    let v ← files.jsonObject (repo.join "package.json")
    (PackageJson.manifest repo.name v).mapError .fault

/-- The manifest of a repository, in the language with a name or in the one that is found. -/
def readManifest (files : Files) (repo : Path) (language : Option String := none) :
    Except Error Manifest :=
  match language with
  | some name =>
    match Language.ofName? name with
    | some l => files.readManifestAs repo l
    | none => .error (.manifest (.unsupportedLanguage name))
  | none =>
    match files.detectLanguage repo with
    | some l => files.readManifestAs repo l
    | none => .error (.manifest (.noManifest repo))

end Files

end CodeGraph

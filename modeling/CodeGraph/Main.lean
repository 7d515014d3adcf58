import CodeGraph.Command.Run

/-!
# The command

The command looks up the files that its query needs, asks the query of what it found, and prints the
outcome.
-/
namespace CodeGraph.Main

/-- What stands at a place of the file system: a file with its content, or a directory, whose
entries are left out. -/
def look (place : String) : IO (Option FileTree) := do
  try
    let _ ← ((← IO.currentDir) / place).readDir
    return some (.directory [])
  catch _ =>
    try
      let bytes ← IO.FS.readBinFile place
      return some (.file bytes.toList)
    catch _ => return none

/-- Put what stands along a path into the files, name by name and as far as the path leads. -/
def fetchFrom (files : Files) (passed : List String) : List String → IO Files
  | [] => return files
  | ".." :: names => fetchFrom files passed.dropLast names
  | name :: names => do
    let here := passed ++ [name]
    match ← look (files.directory.root ++ String.intercalate "/" here) with
    | none => return files
    | some found =>
      match FileTree.put here found (.directory files.children) with
      | .directory children => fetchFrom { files with children := children } here names
      | .file _ => return files

/-- Put what stands at a path into the files. -/
def fetch (files : Files) (p : Path) : IO Files :=
  if p.root.isEmpty then fetchFrom files [] (files.directory.names ++ p.names)
  else fetchFrom files [] p.names

/-- The names of the files that a scan looks at in a repository. -/
def scannedNames : List String :=
  Language.all.flatMap Language.manifestFiles ++ Files.devRequirementsFiles

/-- Put the manifests below a directory into the files. -/
def fetchScan (files : Files) (directory : Path) : IO Files := do
  let files ← fetch files directory
  try
    let entries ← ((← IO.currentDir) / directory.text).readDir
    let repos := entries.toList.map fun e => directory.join e.fileName
    (repos.flatMap fun repo => repo :: scannedNames.map repo.join).foldlM fetch files
  catch _ => return files

/-- The files that a query needs. -/
def filesFor (directory : Path) (q : Query) : IO Files := do
  let nothing : Files := ⟨directory, []⟩
  match q with
  | .ofFacts facts _ => fetch nothing (facts.getD directory.defaultFacts)
  | .ofPortfolio (some (.file path)) _ => fetch nothing path
  | .ofPortfolio (some (.scan directory)) _ => fetchScan nothing directory
  | .ofPortfolio none _ => return nothing

/-- The environment with the variables that the command asks for. -/
def environment : IO Environment := do
  let facts ← IO.getEnv factsVariable
  let portfolio ← IO.getEnv portfolioVariable
  return fun name =>
    if name = factsVariable then facts
    else if name = portfolioVariable then portfolio
    else none

/-- What is said of a command line that is no command. -/
def usageMessage : String :=
  "Usage: repograph [-v] COMMAND ... | repograph [-v] portfolio COMMAND ..."

/-- Print an outcome. -/
def report (o : Outcome) : IO UInt32 := do
  IO.print o.output
  IO.eprint o.reported
  match o.abort with
  | none => pure ()
  | some a => IO.eprintln a.message
  return o.exitCode.toUInt32

end CodeGraph.Main

open CodeGraph in
/-- Run the command that the arguments stand for. -/
def main (args : List String) : IO UInt32 := do
  let env ← CodeGraph.Main.environment
  match Command.parse? env args with
  | none =>
    IO.eprintln CodeGraph.Main.usageMessage
    CodeGraph.Main.report .usage
  | some c =>
    let directory := Path.ofText (← IO.currentDir).toString
    let files ← CodeGraph.Main.filesFor directory c.query
    CodeGraph.Main.report (c.run files)

import CodeGraph.Manifest.Read
import CodeGraph.Text.Split

/-!
# Scanning for manifests

A portfolio can be put together from a directory: every directory in it that is not hidden and has a
manifest is a repository. A repository whose manifest is of no use is skipped, with a message.

Main definitions:

- `Files.scan`: the manifests below a directory, and what was skipped.
-/
namespace CodeGraph

/-- A repository that was skipped, and why. -/
structure Skipped where
  name : String
  reason : ManifestError
  deriving Repr

/-- What is said of a repository that was skipped. -/
def Skipped.message (s : Skipped) : String := "Skipping " ++ s.name ++ ": " ++ s.reason.message

/-- The outcome of a scan: what was skipped, and the manifests, or the error that ended the scan. -/
structure Scan where
  skipped : List Skipped := []
  result : Except Error (List Manifest)

namespace Files

/-- Whether a path leads to a repository: a directory that is not hidden and has a manifest. -/
def isRepository (files : Files) (p : Path) : Bool :=
  files.isDirectory p && !Text.startsWith ['.'] p.name.toList && (files.detectLanguage p).isSome

/-- Read the manifests of repositories in order, given what was skipped and read before them, last
one first. -/
def scanFrom (files : Files) (skipped : List Skipped) (done : List Manifest) :
    List Path → Scan
  | [] => ⟨skipped.reverse, .ok done.reverse⟩
  | p :: ps =>
    match files.readManifest p with
    | .ok m => scanFrom files skipped (m :: done) ps
    | .error (.manifest e) => scanFrom files (⟨p.name, e⟩ :: skipped) done ps
    | .error e => ⟨skipped.reverse, .error e⟩

/-- The manifests of the repositories right below a directory. -/
def scan (files : Files) (root : Path) : Scan :=
  if files.isDirectory root then
    scanFrom files [] [] ((files.entriesOf root).filter files.isRepository)
  else ⟨[], .error (.manifest (.notADirectory root))⟩

end Files

end CodeGraph

import CodeGraph.Document.Fault
import CodeGraph.Files.Tree
import CodeGraph.Graph.Store
import CodeGraph.Json.Reader

/-!
# Errors

Why facts, manifests and graphs cannot be had. The errors of facts and manifests and the missing end
of an edge are the library's own, and a command reports them; a fault of a single value and bytes
that are no text are passed on as they are.

Main definitions:

- `FactsError`, `ManifestError`, `Error`: the causes, each with its message;
- `Error.isReported`: whether a command reports an error;
- `Files.textOr`: the text of a file, or the error of its reader.
-/
namespace CodeGraph

/-- Why a file of facts is of no use. -/
inductive FactsError where
  | unreadable (path : Path) (fault : FileFault)
  | badJson (path : Path) (fault : Json.SyntaxFault)
  | notAnObject (path : Path)
  | malformed (fault : Fault)
  deriving Repr

/-- The message of an error of facts. -/
def FactsError.message : FactsError → String
  | .unreadable p f => "Cannot read " ++ p.text ++ ": " ++ f.messageAt p
  | .badJson p f => "Invalid JSON in " ++ p.text ++ ": " ++ f.message
  | .notAnObject p => "Expected a JSON object in " ++ p.text
  | .malformed f => "Malformed facts: " ++ f.labelled

/-- Why a manifest or a portfolio is of no use. -/
inductive ManifestError where
  | unreadable (path : Path) (fault : Files.TextFault)
  | badJson (path : Path) (fault : Json.SyntaxFault)
  | badToml (path : Path)
  | notAnObject (path : Path)
  | notARepoList (path : Path)
  | malformedRepo (path : Path) (fault : Fault)
  | notAMixProject (path : Path)
  | noManifest (repo : Path)
  | unsupportedLanguage (name : String)
  | notADirectory (path : Path)
  deriving Repr

/-- The message of an error of manifests. -/
def ManifestError.message : ManifestError → String
  | .unreadable p f => "Cannot read " ++ p.text ++ ": " ++ f.messageAt p
  | .badJson p f => "Invalid JSON in " ++ p.text ++ ": " ++ f.message
  | .badToml p => "Invalid TOML in " ++ p.text
  | .notAnObject p => "Expected an object in " ++ p.text
  | .notARepoList p => "Expected a list of repos in " ++ p.text
  | .malformedRepo p f => "Malformed repo in " ++ p.text ++ ": " ++ f.labelled
  | .notAMixProject p => "Not a mix project file: " ++ p.text
  | .noManifest p => "No supported manifest in " ++ p.text
  | .unsupportedLanguage name => "Unsupported language: " ++ name
  | .notADirectory p => "Not a directory: " ++ p.text

/-- Why something asked for cannot be had. -/
inductive Error where
  | facts (e : FactsError)
  | manifest (e : ManifestError)
  | missingEnd (m : MissingEnd)
  | encoding (f : Text.Utf8.Fault)
  | fault (f : Fault)
  deriving Repr

namespace Error

/-- The message of an error. -/
def message : Error → String
  | .facts e => e.message
  | .manifest e => e.message
  | .missingEnd m => m.message
  | .encoding f => f.message
  | .fault f => f.message

/-- Whether a command reports an error instead of passing it on. -/
def isReported : Error → Bool
  | .facts _ => true
  | .manifest _ => true
  | .missingEnd _ => true
  | .encoding _ => false
  | .fault _ => false

end Error

/-- The text of a file. The reader of the file says what error a fault of the file is to it; a path
with a null in it is a faulty value whoever asks. -/
def Files.textOr (files : Files) (p : Path) (error : Files.TextFault → Error) :
    Except Error (List Char) :=
  if p.hasNull then .error (.fault .nullInPath) else (files.readText p).mapError error

end CodeGraph

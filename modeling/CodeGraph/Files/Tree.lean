import CodeGraph.Files.Path
import CodeGraph.Text.Lines
import CodeGraph.Text.Quoted
import CodeGraph.Text.Utf8

/-!
# File trees

What a program can see of a file system: a tree of directories and files, and a working directory in
it. A path is walked from name to name; two dots lead back to the directory above. The walk
fails where a name is missing, where it is longer than names can be, and where something other than
a directory would have to be entered.

Main definitions:

- `Files.locate`: what stands at a path;
- `Files.readBytes`, `Files.readText`: the content of a file;
- `Files.isFile`, `Files.isDirectory`, `Files.children`.
-/
namespace CodeGraph

/-- A file with its bytes, or a directory with its entries. -/
inductive FileTree where
  | file (content : List UInt8)
  | directory (children : List (String × FileTree))
  deriving Inhabited

/-- Why a file cannot be read. -/
inductive FileFault where
  | notFound
  | notADirectory
  | isADirectory
  | nameTooLong
  deriving DecidableEq, Repr

/-- The wording of a file fault. -/
def FileFault.message : FileFault → String
  | .notFound => "[Errno 2] No such file or directory"
  | .notADirectory => "[Errno 20] Not a directory"
  | .isADirectory => "[Errno 21] Is a directory"
  | .nameTooLong => "[Errno 36] File name too long"

/-- The message of a file fault at a path, which is shown in quotes. -/
def FileFault.messageAt (f : FileFault) (p : Path) : String :=
  f.message ++ ": " ++ Text.quoted p.text

/-- The files that a program sees: the entries at the top of the tree, and the working directory,
whose root is that top. -/
structure Files where
  directory : Path
  children : List (String × FileTree)

namespace Files

/-- The entry with a name. -/
def child? (name : String) : List (String × FileTree) → Option FileTree
  | [] => none
  | (n, t) :: rest => if n = name then some t else child? name rest

/-- The most bytes that a name has. -/
def maxNameBytes : Nat := 255

/-- The most bytes that the text of a path has. -/
def maxPathBytes : Nat := 4095

/-- The fault of a name that a directory does not hold. -/
def missing (name : String) : FileFault :=
  if maxNameBytes < name.utf8ByteSize then .nameTooLong else .notFound

/-- Walk from a directory along names. The directories above the current one are at hand, the
nearest first; above the topmost one there is only that one itself. -/
def walk (above : List (List (String × FileTree))) (here : List (String × FileTree)) :
    List String → Except FileFault FileTree
  | [] => .ok (.directory here)
  | ".." :: names =>
    match above with
    | [] => walk [] here names
    | up :: ups => walk ups up names
  | name :: names =>
    match child? name here with
    | none => .error (missing name)
    | some (.directory entries) => walk (here :: above) entries names
    | some (.file content) => if names.isEmpty then .ok (.file content) else .error .notADirectory

/-- What stands at a path. A path without a root starts at the working directory, and nothing stands
below another root than that of the tree. -/
def locate (files : Files) (p : Path) : Except FileFault FileTree :=
  if maxPathBytes < p.text.utf8ByteSize then .error .nameTooLong
  else if p.root = files.directory.root then walk [] files.children p.names
  else if p.root.isEmpty then walk [] files.children (files.directory.names ++ p.names)
  else .error .notFound

/-- Whether a path leads to a file. -/
def isFile (files : Files) (p : Path) : Bool :=
  match files.locate p with
  | .ok (.file _) => true
  | _ => false

/-- Whether a path leads to a directory. -/
def isDirectory (files : Files) (p : Path) : Bool :=
  match files.locate p with
  | .ok (.directory _) => true
  | _ => false

/-- Whether a path leads anywhere. -/
def exists? (files : Files) (p : Path) : Bool := files.isFile p || files.isDirectory p

/-- The paths of the entries of a directory, in order of their names. -/
def entriesOf (files : Files) (p : Path) : List Path :=
  match files.locate p with
  | .ok (.directory entries) =>
    ((entries.map Prod.fst).mergeSort fun a b => a ≤ b).map p.join
  | _ => []

/-- The bytes of a file. -/
def readBytes (files : Files) (p : Path) : Except FileFault (List UInt8) :=
  match files.locate p with
  | .ok (.file content) => .ok content
  | .ok (.directory _) => .error .isADirectory
  | .error f => .error f

/-- Why the text of a file cannot be read. -/
inductive TextFault where
  | unreadable (f : FileFault)
  | undecodable (f : Text.Utf8.Fault)
  deriving DecidableEq, Repr

/-- The message of a fault of the text at a path. -/
def TextFault.messageAt (p : Path) : TextFault → String
  | .unreadable f => f.messageAt p
  | .undecodable f => f.message

/-- The text of a file in UTF-8, with all lines ending in line feeds. -/
def readText (files : Files) (p : Path) : Except TextFault (List Char) :=
  match files.readBytes p with
  | .error f => .error (.unreadable f)
  | .ok bytes =>
    match Text.Utf8.decode bytes with
    | .error f => .error (.undecodable f)
    | .ok cs => .ok (Text.unifyNewlines cs)

end Files

namespace FileTree

/-- A tree in the place of another one. A directory leaves a directory as it is. -/
def replace (t : FileTree) : FileTree → FileTree
  | .directory entries =>
    match t with
    | .directory _ => .directory entries
    | .file content => .file content
  | .file _ => t

mutual

/-- Put a tree at the end of a list of names, making the directories on the way. A directory that
is there already is kept when another directory is put in its place. -/
def put (names : List String) (t : FileTree) : FileTree → FileTree
  | .file content => .file content
  | .directory entries =>
    match names with
    | [] => .directory entries
    | [name] => .directory (putEntry name [] t entries)
    | name :: rest => .directory (putEntry name rest t entries)

/-- Put a tree below the entry with a name. -/
def putEntry (name : String) (rest : List String) (t : FileTree) :
    List (String × FileTree) → List (String × FileTree)
  | [] => [(name, rest.foldr (fun n below => .directory [(n, below)]) t)]
  | (n, below) :: entries =>
    if n = name then
      (n, if rest.isEmpty then replace t below else put rest t below) :: entries
    else (n, below) :: putEntry name rest t entries

end

end FileTree

end CodeGraph

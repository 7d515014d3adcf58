import CodeGraph.Text.Split

/-!
# Paths

A path is a list of names behind a root. Empty names and single dots in its text say nothing and are
dropped; two dots are a name like any other. The path without names is shown as a single dot.

Main statements:

- `text_join`: joining a name to a path adds it at the end of the text.
-/
namespace CodeGraph

/-- A path: its root, which is empty for a relative path, and its names. -/
structure Path where
  root : String := ""
  names : List String := []
  deriving DecidableEq, Repr, Inhabited

namespace Path

/-- The root that a text starts with. Two slashes make a root of their own, more make a single
one. -/
def rootOf (cs : List Char) : String :=
  match cs with
  | '/' :: '/' :: '/' :: _ => "/"
  | '/' :: '/' :: _ => "//"
  | '/' :: _ => "/"
  | _ => ""

/-- The path that a text denotes. -/
def ofText (s : String) : Path where
  root := rootOf s.toList
  names := ((Text.splitAt '/' s.toList).map String.ofList).filter fun n => n != "" && n != "."

/-- The text of a path. -/
def text (p : Path) : String :=
  if p.names.isEmpty then (if p.root.isEmpty then "." else p.root)
  else p.root ++ String.intercalate "/" p.names

/-- The last name of a path; empty when there is none. -/
def name (p : Path) : String := p.names.getLast?.getD ""

/-- Whether the text of a path holds a null, which no file system takes. -/
def hasNull (p : Path) : Bool := p.text.toList.contains '\x00'

/-- A path with one more name. -/
def join (p : Path) (name : String) : Path := { p with names := p.names ++ [name] }

/-- Joining a name to a path with names adds it at the end of the text. -/
theorem text_join {p : Path} (h : p.names ≠ []) (name : String) :
    (p.join name).text = p.text ++ "/" ++ name := by
  have apart : String.intercalate "/" (p.names ++ [name]) =
      String.intercalate "/" p.names ++ "/" ++ name := by
    rw [String.intercalate_append_of_ne_nil h (List.cons_ne_nil name []),
      String.intercalate_singleton]
  simp [text, join, h, apart, String.append_assoc]

end Path

end CodeGraph

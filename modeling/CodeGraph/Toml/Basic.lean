import CodeGraph.Document.Fault

/-!
# TOML: results and filler

What all readers of TOML share: each takes something off the front of a text and hands back the
rest, or fails. Between the parts of a document stand spaces, line feeds and comments. A comment
runs to the end of its line and holds no control characters other than tabs.
-/
namespace CodeGraph.Toml

/-- Why a document could not be read: it breaks the grammar, or a value in it is at fault. -/
inductive ReadFault where
  | badSyntax
  | badValue (fault : Fault)
  deriving DecidableEq, Repr

/-- A reader takes something off the front of a text. -/
abbrev Result (α : Type) := Except ReadFault (α × List Char)

/-- Whether a character may stand between the parts of a line. -/
def isSpace (c : Char) : Bool := c == ' ' || c == '\t'

/-- A text without the spaces in front. -/
def skipSpaces (cs : List Char) : List Char := cs.dropWhile isSpace

/-- Whether a character is a control character other than the tab. -/
def isControl (c : Char) : Bool := (c.toNat < 0x20 && c != '\t') || c.toNat == 0x7f

/-- A text without the comment in front, if there is one. -/
def skipComment : List Char → Except ReadFault (List Char)
  | '#' :: cs =>
    if (cs.takeWhile (· != '\n')).any isControl then .error .badSyntax
    else .ok (cs.dropWhile (· != '\n'))
  | cs => .ok cs

/-- A text without the spaces, line feeds and comments in front. The flag tells that a comment is
open. -/
def skipFiller (inComment : Bool) : List Char → Except ReadFault (List Char)
  | [] => .ok []
  | c :: cs =>
    if inComment then
      if c = '\n' then skipFiller false cs
      else if isControl c then .error .badSyntax
      else skipFiller true cs
    else if isSpace c ∨ c = '\n' then skipFiller false cs
    else if c = '#' then skipFiller true cs
    else .ok (c :: cs)

end CodeGraph.Toml

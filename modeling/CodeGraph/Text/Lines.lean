/-!
# Lines

A line ends with a line feed, a carriage return, the two together, a vertical tab, a form feed, one
of the separators 0x1c to 0x1e, or one of the three line ends beyond ASCII.
-/
namespace CodeGraph.Text

/-- Whether a character ends a line. -/
def isLineEnd (c : Char) : Bool :=
  let n := c.toNat
  (0x0a ≤ n && n ≤ 0x0d) || (0x1c ≤ n && n ≤ 0x1e) || n == 0x85 || n == 0x2028 || n == 0x2029

/-- The lines of a text, given the characters of the open line, last one first. -/
def linesFrom (line : List Char) : List Char → List (List Char)
  | [] => if line.isEmpty then [] else [line.reverse]
  | '\r' :: '\n' :: cs => line.reverse :: linesFrom [] cs
  | c :: cs => if isLineEnd c then line.reverse :: linesFrom [] cs else linesFrom (c :: line) cs

/-- The lines of a text without their ends. A line end at the end of the text opens no further
line. -/
def lines (cs : List Char) : List (List Char) := linesFrom [] cs

/-- A text in which every line that ended with a carriage return ends with a line feed. -/
def unifyNewlines : List Char → List Char
  | [] => []
  | '\r' :: '\n' :: cs => '\n' :: unifyNewlines cs
  | c :: cs => (if c = '\r' then '\n' else c) :: unifyNewlines cs

end CodeGraph.Text

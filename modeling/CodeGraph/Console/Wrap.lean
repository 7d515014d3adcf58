import CodeGraph.Console.Marked

/-!
# Wrapping

A text is broken into lines of a width. A line ends between two words where the next one would not
fit. A word that fits no line is folded over several lines, or it gets a line of its own, which is
cut and ends in an ellipsis.

Main definitions:

- `Console.breaks`: the places where a line is broken;
- `Marked.wrap`: the lines of a text.
-/
namespace CodeGraph.Console

/-- What becomes of a word that is wider than a line. -/
inductive Overflow where
  | fold
  | ellipsis
  deriving DecidableEq, Repr

/-- The words of a text, each with the blanks behind it, given the open one, last character first,
and whether it holds a word yet. Blanks in front belong to the first word, and blanks alone are no
word. -/
def chunksFrom (chunk : List Char) (started : Bool) : List Char → List (List Char)
  | [] => if started then [chunk.reverse] else []
  | c :: cs =>
    if started && !Text.isBlank c && chunk.head?.any Text.isBlank then
      chunk.reverse :: chunksFrom [c] true cs
    else chunksFrom (c :: chunk) (started || !Text.isBlank c) cs

/-- The words of a text, each with the blanks behind it. -/
def chunks (cs : List Char) : List (List Char) := chunksFrom [] false cs

/-- A place to break a text at; nothing is broken off at the very start. -/
def breakAt (place : Nat) : List Nat := if place = 0 then [] else [place]

/-- The places where the parts of a word start. -/
def foldPlaces (place : Nat) : List (List Char) → List Nat
  | [] => []
  | part :: parts => breakAt place ++ foldPlaces (place + part.length) parts

/-- The places where words in a row are broken into lines of a width, given the place of the first
word and the cells used up before it. -/
def breaksFrom (w : Nat) (o : Overflow) (place used : Nat) : List (List Char) → List Nat
  | [] => []
  | word :: rest =>
    let next := place + word.length
    let needed := Text.width (Text.trimEndWhile Text.isBlank word)
    if used + needed ≤ w then breaksFrom w o next (used + Text.width word) rest
    else if w < needed then
      match o with
      | .fold =>
        let parts := Text.chop w word
        foldPlaces place parts ++
          breaksFrom w o next ((parts.getLast?.map Text.width).getD used) rest
      | .ellipsis => breakAt place ++ breaksFrom w o next (Text.width word) rest
    else if used = 0 ∨ place = 0 then breaksFrom w o next used rest
    else place :: breaksFrom w o next (Text.width word) rest

/-- The places where a line is broken into lines of a width. -/
def breaks (w : Nat) (o : Overflow) (cs : List Char) : List Nat := breaksFrom w o 0 0 (chunks cs)

namespace Marked

/-- A text without the blanks at its end, as far as they stand behind a number of characters. -/
def trimBeyond (n : Nat) (t : Marked) : Marked :=
  let blanks := t.length - (Text.trimEndWhile Text.isBlank t.chars).length
  if n < t.length ∧ 0 < blanks then t.crop (t.length - min blanks (t.length - n)) else t

/-- The sign for what is cut off. -/
def ellipsis : Char := '…'

/-- A text cut to a width. -/
def truncate (w : Nat) (o : Overflow) (t : Marked) : Marked :=
  if w < t.width then
    t.replace (match o with
      | .fold => Text.fit w t.chars
      | .ellipsis => Text.fit (w - 1) t.chars ++ [ellipsis])
  else t

/-- The lines of a width that a line is broken into. -/
def wrapLine (w : Nat) (o : Overflow) (t : Marked) : List Marked :=
  let t := t.expandTabs
  (t.divide (breaks w o t.chars)).map fun l => (l.trimBeyond w).truncate w o

/-- The lines of a width that a text is broken into. -/
def wrap (w : Nat) (o : Overflow) (t : Marked) : List Marked := t.lines.flatMap (wrapLine w o)

end Marked

end CodeGraph.Console

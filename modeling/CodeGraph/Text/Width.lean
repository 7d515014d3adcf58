import CodeGraph.Text.Ranges
import CodeGraph.Text.WidthTable

/-!
# Widths in terminal cells

Most characters take one cell of a terminal line. Controls and combining marks take none; wide and
full-width characters and most pictographs take two. A joiner glues the character behind it to the
one in front, and the two take the cells of the first one; an emoji selector asks for the emoji form
of the character in front, which may be wider.

A cluster is a character together with what takes no cells of its own behind it. Texts are cut
between clusters.

Main definitions:

- `width`: the number of cells a text takes;
- `clusters`: the clusters of a text;
- `fit`: a text cut or filled up to a width;
- `chop`: a text in pieces of a width.
-/
namespace CodeGraph.Text

/-- The number of cells a character takes by itself. -/
def charWidth (c : Char) : Nat :=
  if inRanges zeroWidthRanges c.toNat then 0
  else if inRanges doubleWidthRanges c.toNat then 2
  else 1

/-- The character that glues its neighbours together. -/
def joiner : Char := '\u200d'

/-- The character that asks for the emoji form of the one in front. -/
def emojiSelector : Char := '\ufe0f'

/-- The cells that an emoji selector adds to the last character that takes any. -/
def widening (last : Option Char) : Nat :=
  if last.any fun c => inRanges widenedRanges c.toNat then 1 else 0

/-- The cells of a text, given the last character before it that takes any and can still be widened,
and whether the first character is glued to what stands before. -/
def widthFrom (last : Option Char) (glued : Bool) : List Char → Nat
  | [] => 0
  | c :: cs =>
    if glued then widthFrom last false cs
    else if c = joiner then widthFrom last true cs
    else if c = emojiSelector then widening last + widthFrom none false cs
    else if charWidth c = 0 then widthFrom last false cs
    else charWidth c + widthFrom (some c) false cs

/-- The number of cells a text takes. -/
def width (cs : List Char) : Nat := widthFrom none false cs

/-- A character with what takes no cells of its own behind it. -/
structure Cluster where
  text : List Char
  cells : Nat
  deriving DecidableEq, Repr

/-- A cluster with more characters at its end. -/
def Cluster.extend (k : Cluster) (cs : List Char) (cells : Nat) : Cluster :=
  ⟨k.text ++ cs, k.cells + cells⟩

/-- The clusters of a text from a place on, given the open cluster, the last character that takes
cells and can still be widened, and whether the first character is glued to the open cluster. -/
def clustersFrom (k : Cluster) (last : Option Char) (glued : Bool) : List Char → List Cluster
  | [] => [k]
  | c :: cs =>
    if glued then clustersFrom (k.extend [c] 0) last false cs
    else if c = joiner then clustersFrom (k.extend [c] 0) last true cs
    else if c = emojiSelector then clustersFrom (k.extend [c] (widening last)) none false cs
    else if charWidth c = 0 then clustersFrom (k.extend [c] 0) last false cs
    else k :: clustersFrom ⟨[c], charWidth c⟩ (some c) false cs

/-- The clusters of a text. A joiner in front has nothing to glue to. -/
def clusters : List Char → List Cluster
  | [] => []
  | c :: cs =>
    if charWidth c = 0 then clustersFrom ⟨[c], 0⟩ none false cs
    else clustersFrom ⟨[c], charWidth c⟩ (some c) false cs

/-- The front of a text up to a number of cells. Where the cut goes through a cluster, a space
stands for its first half. -/
def cutAt (cells : Nat) : List Cluster → List Char
  | [] => []
  | k :: ks =>
    if cells = 0 then []
    else if k.cells ≤ cells then k.text ++ cutAt (cells - k.cells) ks
    else [' ']

/-- A text cut or filled up with spaces to a width. -/
def fit (w : Nat) (cs : List Char) : List Char :=
  if width cs = w then cs
  else if width cs < w then cs ++ List.replicate (w - width cs) ' '
  else cutAt w (clusters cs)

/-- The pieces of clusters that are at most so wide, given the cells and the characters of the open
piece. What takes no cells at the end makes no piece of its own. -/
def chopFrom (w used : Nat) (piece : List Char) : List Cluster → List (List Char)
  | [] => [piece]
  | k :: ks =>
    if w < used + k.cells then piece :: chopFrom w k.cells k.text ks
    else chopFrom w (used + k.cells) (piece ++ k.text) ks

/-- A text in pieces that are at most so wide. -/
def chop (w : Nat) (cs : List Char) : List (List Char) := chopFrom w 0 [] (clusters cs)

end CodeGraph.Text

import CodeGraph.Text.Blank
import CodeGraph.Text.Width

/-!
# Marked texts

A text for the console, in which stretches are marked by the tags around them. A mark shows nothing,
but it takes a text apart: no joiner and no emoji selector reaches over the border of a stretch.

Main definitions:

- `Marked.divide`: the parts of a marked text between given places;
- `Marked.expandTabs`: a marked text with spaces for its tabs;
- `Marked.segments`: the parts of a text that are shown one by one.
-/
namespace CodeGraph.Console

/-- A marked part of a text: where it starts and where it stops. -/
structure Stretch where
  start : Nat
  stop : Nat
  deriving DecidableEq, Repr

/-- A text with marked stretches. -/
structure Marked where
  chars : List Char
  stretches : List Stretch := []
  deriving DecidableEq, Repr

/-- The part of a stretch between two places, counted from the first one. -/
def Stretch.clip (start stop : Nat) (s : Stretch) : Option Stretch :=
  let t : Stretch := ⟨s.start - start, min s.stop stop - start⟩
  if t.start < t.stop then some t else none

/-- A stretch further on in a text. -/
def Stretch.shift (n : Nat) (s : Stretch) : Stretch := ⟨s.start + n, s.stop + n⟩

namespace Marked

/-- The number of characters of a marked text. -/
def length (t : Marked) : Nat := t.chars.length

/-- The number of cells a marked text takes when it is not taken apart. -/
def width (t : Marked) : Nat := Text.width t.chars

/-- The part of a text between two places. -/
def slice (t : Marked) (start stop : Nat) : Marked where
  chars := (t.chars.drop start).take (stop - start)
  stretches := t.stretches.filterMap (Stretch.clip start stop)

/-- The parts of a text from a place on that stop at given places and at the end. -/
def slicesFrom (t : Marked) (start : Nat) : List Nat → List Marked
  | [] => [t.slice start t.length]
  | stop :: stops => t.slice start stop :: slicesFrom t stop stops

/-- The parts of a text between given places. A text that is not divided keeps its empty stretches,
too. -/
def divide (t : Marked) (places : List Nat) : List Marked :=
  if places.isEmpty then [t] else t.slicesFrom 0 places

/-- The places of a character in a text, counted from a place on. -/
def placesFrom (c : Char) (n : Nat) : List Char → List Nat
  | [] => []
  | d :: ds => if d = c then n :: placesFrom c (n + 1) ds else placesFrom c (n + 1) ds

/-- The lines of a text. -/
def lines (t : Marked) : List Marked :=
  let ends := placesFrom '\n' 0 t.chars
  (t.divide (ends.flatMap fun n => [n, n + 1])).filter fun l => l.chars != ['\n']

/-- A text cut after some characters, with the stretches that start before the cut. -/
def crop (t : Marked) (n : Nat) : Marked where
  chars := t.chars.take n
  stretches := (t.stretches.filter fun s => s.start < n).map fun s => ⟨s.start, min s.stop n⟩

/-- A text in the place of another, with the stretches that start before its end. -/
def replace (t : Marked) (cs : List Char) : Marked where
  chars := cs
  stretches :=
    if cs.length < t.length then
      (t.stretches.filter fun s => s.start < cs.length).map fun s => ⟨s.start, min s.stop cs.length⟩
    else t.stretches

/-- A text with spaces at its end. Stretches that reach the end are stretched further. -/
def extend (t : Marked) (n : Nat) : Marked where
  chars := t.chars ++ List.replicate n ' '
  stretches := t.stretches.map fun s => if t.length ≤ s.stop then ⟨s.start, s.stop + n⟩ else s

/-- Texts in a row as one text. -/
def join : List Marked → Marked
  | [] => ⟨[], []⟩
  | t :: ts =>
    let rest := join ts
    ⟨t.chars ++ rest.chars, t.stretches ++ rest.stretches.map (Stretch.shift t.length)⟩

/-- Tabs stop at every column that is a multiple of this. -/
def tabStop : Nat := 8

/-- The spaces from a column to the next tab stop. -/
def spacesToStop (column : Nat) : Nat := (tabStop - column % tabStop) % tabStop

/-- The parts of a text with spaces for the tabs at their ends, from a column on. -/
def expandParts (column : Nat) : List Marked → List Marked
  | [] => []
  | t :: ts =>
    if t.chars.getLast? = some '\t' then
      let spaced : Marked := { t with chars := t.chars.dropLast ++ [' '] }
      let column := column + spaced.width
      let spaces := spacesToStop column
      spaced.extend spaces :: expandParts (column + spaces) ts
    else t :: expandParts (column + t.width) ts

/-- A text with spaces for its tabs. -/
def expandTabs (t : Marked) : Marked :=
  match placesFrom '\t' 0 t.chars with
  | [] => t
  | tabs =>
    let parts := t.divide (tabs.map (· + 1))
    join (expandParts 0 (parts.filter fun p => !p.chars.isEmpty))

/-- The places where the stretches of a text start and stop, in order. -/
def borders (t : Marked) : List Nat :=
  (t.stretches.flatMap fun s => [s.start, s.stop]).mergeSort

/-- The parts of a text that are shown one by one. -/
def segments (t : Marked) : List (List Char) :=
  ((t.slicesFrom 0 t.borders).map Marked.chars).filter fun cs => !cs.isEmpty

end Marked

end CodeGraph.Console

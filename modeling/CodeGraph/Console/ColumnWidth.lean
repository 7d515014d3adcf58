import CodeGraph.Number.Double

/-!
# Widths of columns

A column is as wide as its widest cell needs, with a space on either side. Where the columns of a
grid together are wider than there is room, the widest ones give way first: they are brought down
to the next widest step by step, until the columns fit.

Main definitions:

- `ColumnWidth.ofCells`: the width of a column;
- `ColumnWidth.collapse`: widths brought down to a total;
- `ColumnWidth.all`: the widths of the columns of a grid.
-/
namespace CodeGraph.ColumnWidth

/-- The spaces around a cell. -/
def padding : Nat := 2

/-- The width of a cell that needs some cells of the terminal, where there is only so much room. -/
def ofCell (room needed : Nat) : Nat :=
  if room ≤ padding then room else min (min needed room + padding) room

/-- The width of a column, given what its cells need. -/
def ofCells (room : Nat) (needs : List Nat) : Nat :=
  min ((needs.map (ofCell room)).foldl max 0) room

/-- A width that may give way: its share of the loss and the most it can lose. -/
structure Slot where
  share : Nat
  most : Nat
  width : Nat
  deriving DecidableEq, Repr

/-- Take a loss off widths one after the other, each by what its share is of the shares left. -/
def reduceFrom (loss shares : Nat) : List Slot → List Nat
  | [] => []
  | s :: ss =>
    if s.share = 0 ∨ shares = 0 then s.width :: reduceFrom loss shares ss
    else
      let part := min s.most (Double.roundHalfEven (s.share * loss) shares)
      (s.width - part) :: reduceFrom (loss - part) (shares - s.share) ss

/-- The total of widths. -/
def total (widths : List Nat) : Nat := widths.foldl (· + ·) 0

/-- Take a loss off widths. One that can lose nothing has no share. -/
def reduce (loss : Nat) (slots : List Slot) : List Nat :=
  let slots := slots.map fun s => if s.most = 0 then { s with share := 0 } else s
  reduceFrom loss (total (slots.map Slot.share)) slots

/-- Bring the widest down to the next widest, or as far as the loss goes. -/
def lowerWidest (loss : Nat) (widths : List Nat) : List Nat :=
  let widest := widths.foldl max 0
  let next := (widths.filter (· != widest)).foldl max 0
  reduce loss (widths.map fun w => ⟨if w = widest then 1 else 0, min loss (widest - next), w⟩)

/-- Widths brought down to a total, in at most so many steps. -/
def collapse : Nat → Nat → List Nat → List Nat
  | 0, _, widths => widths
  | steps + 1, room, widths =>
    if total widths ≤ room then widths
    else collapse steps room (lowerWidest (total widths - room) widths)

/-- The widths of columns, given what the cells of each of them need. -/
def all (room : Nat) (needs : List (List Nat)) : List Nat :=
  let widths := (needs.map (ofCells room)).map (max 1)
  if total widths ≤ room then widths
  else
    let widths := collapse (total widths) room widths
    let widths := if total widths ≤ room then widths
      else reduce (total widths - room) (widths.map fun w => ⟨1, w, w⟩)
    List.zipWith ofCells widths needs

end CodeGraph.ColumnWidth

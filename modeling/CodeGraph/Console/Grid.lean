import CodeGraph.Console.ColumnWidth
import CodeGraph.Console.Markup
import CodeGraph.Console.Wrap
import CodeGraph.Text.Lines

/-!
# Grids

A grid shows rows of cells under a header, drawn with lines. A cell may have several lines, and a
row is as high as its highest cell. The lines of a cell are cut or filled up to the width of its
column, with a space on either side.

Main definitions:

- `Console.shownLines`: the lines that a text with markup shows;
- `Grid.render`: the lines of a grid.
-/
namespace CodeGraph

namespace Console

/-- The cells of a line on the console. -/
def lineWidth : Nat := 1000

/-- The cells that segments take one by one. -/
def segmentsWidth (segments : List (List Char)) : Nat :=
  (segments.map Text.width).foldl (· + ·) 0

/-- Segments cut where they reach a width. -/
def cutSegments (w : Nat) : List (List Char) → List (List Char)
  | [] => []
  | s :: ss =>
    if Text.width s < w then s :: cutSegments (w - Text.width s) ss else [Text.fit w s]

/-- Segments that take no more than a width. -/
def crop (w : Nat) (segments : List (List Char)) : List (List Char) :=
  if w < segmentsWidth segments then cutSegments w segments else segments

/-- Segments cut or filled up to a width. -/
def adjust (w : Nat) (segments : List (List Char)) : List (List Char) :=
  let used := segmentsWidth segments
  if used < w then segments ++ [List.replicate (w - used) ' '] else crop w segments

/-- The lines that a text with markup shows. -/
def shownLines (text : String) : Except Markup.Fault (List (List Char)) :=
  (Markup.read text).map fun t =>
    (t.wrap lineWidth .fold).map fun l => (crop lineWidth l.segments).flatten

end Console

/-- Rows of cells under a header. The cells may hold markup. -/
structure Grid where
  header : List String
  rows : List (List String)
  deriving DecidableEq, Repr

namespace Grid

/-- The cells of a terminal line that the text of a cell needs; what tabs will need is not
foreseen. -/
def needed (t : Console.Marked) : Nat :=
  ((Text.lines t.chars).map Text.width).foldl max 0

/-- A text with spaces up to a width. -/
def padded (w : Nat) (t : Console.Marked) : Console.Marked :=
  { t with chars := t.chars ++ List.replicate (w - t.width) ' ' }

/-- One line of a cell in a column. -/
def cellLine (w : Nat) (t : Console.Marked) : List Char :=
  let inner := w - ColumnWidth.padding
  let segments := Console.adjust inner (padded inner t).segments
  (Console.adjust w (Console.adjust w ([[' ']] ++ segments ++ [[' ']]))).flatten

/-- The lines of a cell in a column. A column without room for anything but spaces shows none. -/
def cellLines (w : Nat) (t : Console.Marked) : List (List Char) :=
  if w ≤ ColumnWidth.padding then []
  else (t.wrap (w - ColumnWidth.padding) .ellipsis).map (cellLine w)

/-- A horizontal line: its left end, its stroke, its crossings and its right end. -/
def rule (left stroke crossing right : Char) (widths : List Nat) : List Char :=
  left :: [crossing].intercalate (widths.map fun w => List.replicate w stroke) ++ [right]

/-- The lines of a row in columns. Cells with fewer lines than others are filled up with empty
ones. -/
def rowLines (stroke : Char) (widths : List Nat) (row : List Console.Marked) : List (List Char) :=
  let cells := List.zipWith cellLines widths row
  let height := (cells.map List.length).foldl max 1
  (List.range height).map fun i =>
    let line := List.zipWith (fun w cell => (cell[i]?).getD (List.replicate w ' ')) widths cells
    stroke :: [stroke].intercalate line ++ [stroke]

/-- The columns of a grid, each with its header in front. -/
def columns (g : Grid) : List (List String) :=
  g.header.mapIdx fun i title => title :: g.rows.map fun row => (row[i]?).getD ""

/-- The row at a place in the columns; the header stands at place zero. -/
def rowAt (columns : List (List Console.Marked)) (i : Nat) : List Console.Marked :=
  columns.map fun column => (column[i]?).getD ⟨[], []⟩

/-- The cells of a terminal line that the cells of a grid have together. -/
def room (g : Grid) : Nat := Console.lineWidth - (g.header.length + 1)

/-- The lines of a grid. The cells are looked at column by column. -/
def render (g : Grid) : Except Markup.Fault (List (List Char)) := do
  let columns ← g.columns.mapM fun column => column.mapM Markup.read
  let widths := ColumnWidth.all g.room (columns.map fun column => column.map needed)
  let body := (List.range g.rows.length).flatMap fun i =>
    rowLines '│' widths (rowAt columns (i + 1))
  return [rule '┏' '━' '┳' '┓' widths] ++ rowLines '┃' widths (rowAt columns 0) ++
    [rule '┡' '━' '╇' '┩' widths] ++ body ++ [rule '└' '─' '┴' '┘' widths]

end Grid

end CodeGraph

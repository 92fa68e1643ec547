import LatticeLP.Comparison.Basic
import LatticeLP.Decimal.Rounded
import LatticeLP.Text.Columns

/-!
# Plots

A plot draws a comparison with characters: a dot for every cell whose own coordinates
are feasible, an `o` for every cell that the walk visited, a `Q` for the learned point
and an `S` for the exact one. What is drawn later covers what was there, so the exact
point is always seen.

The window reaches from the origin to a little beyond everything that is drawn, and is
at least one unit wide and high before the margin. A point outside the window, or one
that is not finite, is not drawn.

Any size has a grid. The last line of the text is laid out in a column as wide as the
grid and its axis, and a grid that is wider than such a column can be has no text.
-/

namespace LatticeLP

/-- The size of a plot, in cells. There are at least two either way. -/
structure Plot where
  /-- The number of columns. -/
  width : Nat
  /-- The number of rows. -/
  height : Nat
  /-- There are two columns at least. -/
  two_le_width : 2 ≤ width
  /-- There are two rows at least. -/
  two_le_height : 2 ≤ height
  deriving Repr, DecidableEq

/-- A grid of characters, the lowest row first. -/
abbrev Grid := Array (Array Char)

/-- A cell of a grid. -/
structure GridCell where
  /-- The column, from the left. -/
  column : Nat
  /-- The row, from below. -/
  row : Nat
  deriving Repr, DecidableEq

namespace Grid

/-- The grid has a cell. -/
def hasCell (g : Grid) (cell : GridCell) : Bool :=
  g[cell.row]?.any fun line => decide (cell.column < line.size)

/-- **Draw a character** in a cell, which the grid must have. -/
def draw? (g : Grid) (cell : GridCell) (glyph : Char) : Option Grid :=
  if g.hasCell cell then
    some (g.modify cell.row fun line => line.setIfInBounds cell.column glyph)
  else none

end Grid

namespace Plot

/-- The plot of a requested size. A size below two is raised to two. -/
def ofSize (width height : Nat) : Plot where
  width := max width 2
  height := max height 2
  two_le_width := Nat.le_max_right _ _
  two_le_height := Nat.le_max_right _ _

/-- The plot when no other size is asked for. -/
def standard : Plot := ofSize 64 24

variable {K : Type} [Scalar K]

/-- Everything the window has to show: the walk, both solutions, and the ceiling above
the origin if it is finite. -/
def landmarks (c : Comparison K) : List (Point K) :=
  c.trajectory ++ (c.learned.map (·.point)).toList ++ [c.exact.point] ++
    (((c.program.region.ceiling? 0).bind Height.finite?).map (Point.mk 0)).toList

/-- **The upper corner of the window.** -/
def extent (c : Comparison K) : Point K :=
  let points := landmarks c
  ⟨points.foldl (fun e p => Scalar.larger e p.x) 1.0 * 1.1,
    points.foldl (fun e p => Scalar.larger e p.y) 1.0 * 1.1⟩

/-- The nearest of `count` positions along an axis, for a coordinate as a part of the
extent. -/
def position? (count : Nat) (coordinate extent : K) : Option Nat :=
  match Scalar.round? (coordinate / extent * ((count - 1 : Nat) : K)) with
  | some n => if 0 ≤ n ∧ n < count then some n.toNat else none
  | none => none

/-- **The cell in which a point lies**, if it lies in the window. -/
def cell? (plot : Plot) (extent p : Point K) : Option GridCell := do
  let column ← position? plot.width p.x extent.x
  let row ← position? plot.height p.y extent.y
  pure ⟨column, row⟩

/-- The coordinate of a position along an axis. -/
def coordinate (count index : Nat) (extent : K) : K :=
  (index : K) / ((count - 1 : Nat) : K) * extent

/-- The feasible cells. -/
def background (plot : Plot) (program : Program K) (extent : Point K) : Grid :=
  Array.ofFn fun row : Fin plot.height =>
    Array.ofFn fun column : Fin plot.width =>
      let p : Point K :=
        ⟨coordinate plot.width column extent.x, coordinate plot.height row extent.y⟩
      if program.Feasible p then '.' else ' '

/-- Draw a point, if it lies in the window. -/
def mark? (plot : Plot) (extent : Point K) (glyph : Char) (g : Grid) (p : Point K) :
    Option Grid :=
  match plot.cell? extent p with
  | some cell => g.draw? cell glyph
  | none => some g

/-- **The grid of a comparison**: the region, the walk, the learned point and the exact
one, drawn in this order. -/
def grid? (plot : Plot) (c : Comparison K) : Option Grid := do
  let window := extent c
  let g ← c.trajectory.foldlM (plot.mark? window 'o') (plot.background c.program window)
  let g ← (c.learned.map (·.point)).toList.foldlM (plot.mark? window 'Q') g
  plot.mark? window 'S' g c.exact.point

/-- The lines of a plot but the last: the height of the window, the grid from above, and
the axis. -/
def body (plot : Plot) (window : Point Float) (g : Grid) : List String :=
  ["y ≤ " ++ fixedText 2 window.y] ++
    g.toList.reverse.map (fun line => "│" ++ String.ofList line.toList) ++
    ["└" ++ String.ofList (List.replicate plot.width '─')]

/-- The last line: the width of the window, at the end of the axis. -/
def foot? (plot : Plot) (window : Point Float) : Option String :=
  Text.padLeft? (plot.width + 1) ("x ≤ " ++ fixedText 2 window.x)

/-- **A comparison as a plot**, unless the plot is too wide for its last line to be laid
out. -/
def text? (plot : Plot) (c : Comparison Float) : Option String := do
  let g ← plot.grid? c
  let foot ← plot.foot? (extent c)
  pure ("\n".intercalate (plot.body (extent c) g ++ [foot]))

end Plot

end LatticeLP

import LatticeLP.Proofs.Comparison.Drawing
import LatticeLP.Proofs.Lattice.Rounding
import LatticeLP.Proofs.Scalar.Comparable

/-!
# What a plot shows

A plot is drawn in layers, the region first and the exact point last, and each layer
covers what it meets. What a cell shows in the end can therefore be asked in the
opposite order (`glyph`): whether the exact point lies in it, else the learned one, else
a point of the walk, and else whether the point at the cell's own coordinates is
feasible. That the drawing answers so (`glyph?_of_grid?`) holds in any arithmetic, and
of points that are not drawn because they lie in no cell.

In exact arithmetic there are no such points among those with non-negative coordinates.
The window reaches to the greatest coordinate and a tenth further, so each coordinate is
at most its whole extent, and its position is not beyond the last one
(`exists_position?`). And the cells are where their coordinates say: a cell is the one
in which the point at its own coordinates lies (`cell?_pointAt`), the scaling of the
background being undone by that of the points.
-/

namespace LatticeLP

/-! ## Characters of a grid -/

namespace Grid

variable {g g' : Grid} {cell : GridCell} {ink : Char}

/-- The character in a cell, if the grid has the cell. -/
def glyph? (g : Grid) (cell : GridCell) : Option Char :=
  g[cell.row]?.bind fun characters => characters[cell.column]?

/-- **Drawing in a cell changes what this cell shows**, and no other one. -/
theorem glyph?_draw? (h : g.draw? cell ink = some g') (other : GridCell) :
    g'.glyph? other = if cell = other then some ink else g.glyph? other := by
  unfold draw? at h
  split at h
  · next hcell =>
    obtain rfl := Option.some.inj h
    obtain ⟨column, row⟩ := cell
    obtain ⟨column', row'⟩ := other
    simp only [glyph?, Array.getElem?_modify, GridCell.mk.injEq]
    by_cases hrow : row = row'
    · subst hrow
      -- the row that is drawn in, in which other columns stay as they were
      cases hline : g[row]? with
      | none => simp [hasCell, hline] at hcell
      | some line =>
        have hlt : column < line.size := by simpa [hasCell, hline] using hcell
        simp [Array.getElem?_setIfInBounds, hlt]
    · simp [hrow]
  · cases h

end Grid

namespace Plot

section Layers

variable {K : Type} [Scalar K] {plot : Plot} {c : Comparison K} {window p : Point K}
  {ps : List (Point K)} {g g' : Grid} {cell : GridCell} {ink : Char}

/-! ## Layers -/

theorem glyph?_mark? (h : plot.mark? window ink g p = some g') (cell : GridCell) :
    g'.glyph? cell = if plot.cell? window p = some cell then some ink
      else g.glyph? cell := by
  unfold mark? at h
  split at h
  · next drawn hdrawn =>
    rw [Grid.glyph?_draw? h, hdrawn]
    simp only [Option.some.injEq]
  · next hnone =>
    rw [hnone, if_neg (by simp), Option.some.inj h]

/-- **A layer covers the cells in which its points lie.** -/
theorem glyph?_marks (h : ps.foldlM (plot.mark? window ink) g = some g')
    (cell : GridCell) :
    g'.glyph? cell
      = if ∃ p ∈ ps, plot.cell? window p = some cell then some ink
        else g.glyph? cell := by
  induction ps generalizing g with
  | nil => simp [Option.some.inj h]
  | cons p ps ih =>
    rw [List.foldlM_cons] at h
    obtain ⟨next, hnext, hrest⟩ := Option.bind_eq_some_iff.mp h
    rw [ih hrest, glyph?_mark? hnext]
    by_cases hp : plot.cell? window p = some cell <;> simp [hp]

/-- The point at a cell's own coordinates. -/
def pointAt (plot : Plot) (window : Point K) (cell : GridCell) : Point K :=
  ⟨coordinate plot.width cell.column window.x, coordinate plot.height cell.row window.y⟩

theorem glyph?_background (hcolumn : cell.column < plot.width)
    (hrow : cell.row < plot.height) (program : Program K) (window : Point K) :
    (plot.background program window).glyph? cell
      = some (if program.Feasible (plot.pointAt window cell) then '.' else ' ') := by
  simp only [Grid.glyph?, background, Array.getElem?_ofFn, dif_pos hrow, Option.bind_some,
    dif_pos hcolumn]
  rfl

/-- **What a cell has to show**: the exact point before the learned one, that one before
the walk, and where none of them lies the region. -/
def glyph (plot : Plot) (c : Comparison K) (cell : GridCell) : Char :=
  if plot.cell? (extent c) c.exact.point = some cell then 'S'
  else if ∃ l ∈ c.learned, plot.cell? (extent c) l.point = some cell then 'Q'
  else if ∃ p ∈ c.trajectory, plot.cell? (extent c) p = some cell then 'o'
  else if c.program.Feasible (plot.pointAt (extent c) cell) then '.'
  else ' '

/-- **Every cell of the drawing shows what it has to.** -/
theorem glyph?_of_grid? (h : plot.grid? c = some g) (hcolumn : cell.column < plot.width)
    (hrow : cell.row < plot.height) : g.glyph? cell = some (plot.glyph c cell) := by
  obtain ⟨walked, hwalked, h⟩ := Option.bind_eq_some_iff.mp h
  obtain ⟨learnt, hlearnt, hexact⟩ := Option.bind_eq_some_iff.mp h
  have hlearned :
    (∃ p ∈ (c.learned.map (·.point)).toList, plot.cell? (extent c) p = some cell)
      ↔ ∃ l ∈ c.learned, plot.cell? (extent c) l.point = some cell := by
    simp
  rw [glyph?_mark? hexact, glyph?_marks hlearnt, glyph?_marks hwalked,
    glyph?_background hcolumn hrow, if_congr hlearned rfl rfl]
  simp only [glyph, apply_ite some]

/-! ## Lines -/

/-- The lines of a plot show the rows of its grid from above, behind the axis. -/
theorem getElem?_body (hframes : plot.Frames g) (hcell : g.glyph? cell = some ink)
    (label : Point Float) :
    ∃ line, (plot.body label g)[plot.height - cell.row]? = some line ∧
      line.toList[cell.column + 1]? = some ink := by
  obtain ⟨characters, hcharacters, hink⟩ := Option.bind_eq_some_iff.mp hcell
  have hrow : cell.row < g.size := (Array.getElem?_eq_some_iff.mp hcharacters).1
  have hindex : plot.height - cell.row = g.toList.length - 1 - cell.row + 1 := by
    rw [Array.length_toList, hframes.size] at *
    omega
  refine ⟨"│" ++ String.ofList characters.toList, ?_, ?_⟩
  · have hline : g.toList.reverse[g.toList.length - 1 - cell.row]? = some characters := by
      rw [List.getElem?_reverse (by rw [Array.length_toList]; omega),
        show g.toList.length - 1 - (g.toList.length - 1 - cell.row) = cell.row by
          rw [Array.length_toList]; omega, Array.getElem?_toList, hcharacters]
    rw [body, List.append_assoc, List.singleton_append, hindex, List.getElem?_cons_succ,
      List.getElem?_append_left (by simp; omega), List.getElem?_map, hline,
      Option.map_some]
  · rw [String.toList_append]
    show ('│' :: (String.ofList characters.toList).toList)[cell.column + 1]? = some ink
    rw [List.getElem?_cons_succ, String.toList_ofList, Array.getElem?_toList, hink]

end Layers

/-! ## Exact arithmetic -/

section Exact

variable {plot : Plot} {c : Comparison Rat} {window p : Point Rat} {cell : GridCell}
  {count : Nat}

theorem le_foldl_larger (f : Point Rat → Rat) (ps : List (Point Rat)) (e : Rat) :
    e ≤ ps.foldl (fun e p => Scalar.larger e (f p)) e ∧
      ∀ p ∈ ps, f p ≤ ps.foldl (fun e p => Scalar.larger e (f p)) e := by
  induction ps generalizing e with
  | nil => simp
  | cons p ps ih =>
    obtain ⟨hstart, hrest⟩ := ih (Scalar.larger e (f p))
    rw [List.foldl_cons]
    rw [larger_rational] at hstart hrest ⊢
    exact ⟨(le_max_left _ _).trans hstart,
      List.forall_mem_cons.mpr ⟨(le_max_right _ _).trans hstart, hrest⟩⟩

/-- Both sides of a window are longer than one, and than every coordinate to be shown. -/
theorem window_side (f : Point Rat → Rat) (ps : List (Point Rat)) :
    0 < ps.foldl (fun e p => Scalar.larger e (f p)) 1.0 * 1.1 ∧
      ∀ p ∈ ps, f p ≤ ps.foldl (fun e p => Scalar.larger e (f p)) 1.0 * 1.1 := by
  obtain ⟨hone, hle⟩ := le_foldl_larger f ps 1.0
  norm_num at hone ⊢
  refine ⟨by linarith, fun p hp => ?_⟩
  have := hle p hp
  norm_num at this
  linarith

theorem extent_pos (c : Comparison Rat) : 0 < (extent c).x ∧ 0 < (extent c).y :=
  ⟨(window_side (·.x) (landmarks c)).1, (window_side (·.y) (landmarks c)).1⟩

/-- **The window reaches to everything it has to show.** -/
theorem le_extent (h : p ∈ landmarks c) : p.x ≤ (extent c).x ∧ p.y ≤ (extent c).y :=
  ⟨(window_side (·.x) (landmarks c)).2 p h, (window_side (·.y) (landmarks c)).2 p h⟩

/-- **A coordinate within the extent has a position.** -/
theorem exists_position? (hcount : 0 < count) {x e : Rat} (hx : 0 ≤ x) (hle : x ≤ e)
    (he : 0 < e) :
    ∃ n, position? count x e = some n := by
  have hlast : x / e * ((count - 1 : Nat) : Rat) ≤ ((count - 1 : Nat) : Int) := by
    rw [Int.cast_natCast]
    exact mul_le_of_le_one_left (Nat.cast_nonneg _) ((div_le_one he).mpr hle)
  have hnonneg : 0 ≤ roundRational (x / e * ((count - 1 : Nat) : Rat)) :=
    roundRational_nonneg (mul_nonneg (div_nonneg hx he.le) (Nat.cast_nonneg _))
  have hround := roundRational_mono hlast
  rw [roundRational_intCast] at hround
  exact ⟨_, by rw [position?, round?_rational]; exact if_pos ⟨hnonneg, by omega⟩⟩

/-- **The scaling of coordinates undoes that of positions.** -/
theorem position?_coordinate {index : Nat} (hindex : index < count) (hcount : 2 ≤ count)
    {e : Rat} (he : e ≠ 0) :
    position? count (coordinate count index e) e = some index := by
  have hlast : ((count - 1 : Nat) : Rat) ≠ 0 := Nat.cast_ne_zero.mpr (by omega)
  have hscale : coordinate count index e / e * ((count - 1 : Nat) : Rat)
      = ((index : Int) : Rat) := by
    rw [coordinate, mul_div_cancel_right₀ _ he, div_mul_cancel₀ _ hlast, Int.cast_natCast]
  rw [position?, round?_rational, hscale, roundRational_intCast]
  exact (if_pos ⟨Int.natCast_nonneg _, by omega⟩).trans (by rw [Int.toNat_natCast])

/-- **A cell is the one in which the point at its own coordinates lies.** -/
theorem cell?_pointAt (hcolumn : cell.column < plot.width) (hrow : cell.row < plot.height)
    (hx : window.x ≠ 0) (hy : window.y ≠ 0) :
    plot.cell? window (plot.pointAt window cell) = some cell := by
  simp only [cell?, pointAt, position?_coordinate hcolumn plot.two_le_width hx,
    position?_coordinate hrow plot.two_le_height hy]
  rfl

/-- **A point in the window lies in a cell.** -/
theorem exists_cell? (hnonneg : 0 ≤ p.x ∧ 0 ≤ p.y) (hle : p.x ≤ window.x ∧ p.y ≤ window.y)
    (hpos : 0 < window.x ∧ 0 < window.y) : ∃ cell, plot.cell? window p = some cell := by
  have hwidth : 0 < plot.width := Nat.zero_lt_two.trans_le plot.two_le_width
  have hheight : 0 < plot.height := Nat.zero_lt_two.trans_le plot.two_le_height
  obtain ⟨column, hcolumn⟩ := exists_position? hwidth hnonneg.1 hle.1 hpos.1
  obtain ⟨row, hrow⟩ := exists_position? hheight hnonneg.2 hle.2 hpos.2
  exact ⟨⟨column, row⟩, by rw [cell?, hcolumn, hrow]; rfl⟩

end Exact

end Plot

/-- The points of a comparison: the walk, the learned point and the exact one. -/
def Comparison.points {K : Type} (c : Comparison K) : List (Point K) :=
  c.trajectory ++ (c.learned.map (·.point)).toList ++ [c.exact.point]

namespace Plot

/-- **A plot shows every point and leaves nothing else out**, in exact arithmetic and at
any size that is asked for. Points without a negative coordinate have cells of the grid,
and there is a drawing. In it each cell shows the exact point if it lies there, else the
learned one, else the walk, and else whether the point at the cell's own coordinates,
whose cell it is, is feasible; and so do the lines of the plot, from the topmost row to
the lowest. In particular the exact point is seen. -/
theorem drawing_complete (width height : Nat) (c : Comparison Rat)
    (hnonneg : ∀ p ∈ c.points, 0 ≤ p.x ∧ 0 ≤ p.y) :
    let plot := ofSize width height
    (∀ p ∈ c.points, ∃ cell, plot.cell? (extent c) p = some cell ∧
      cell.column < max width 2 ∧ cell.row < max height 2) ∧
    ∃ g, plot.grid? c = some g ∧
      (∀ cell : GridCell, cell.column < max width 2 → cell.row < max height 2 →
        g.glyph? cell = some (plot.glyph c cell) ∧
        plot.cell? (extent c) (plot.pointAt (extent c) cell) = some cell ∧
        ∀ label, ∃ line, (plot.body label g)[max height 2 - cell.row]? = some line ∧
          line.toList[cell.column + 1]? = some (plot.glyph c cell)) ∧
      ∃ cell,
        plot.cell? (extent c) c.exact.point = some cell ∧ g.glyph? cell = some 'S' := by
  intro plot
  have hpos := extent_pos c
  have hcells : ∀ p ∈ c.points, ∃ cell, plot.cell? (extent c) p = some cell ∧
      cell.column < max width 2 ∧ cell.row < max height 2 := fun p hp => by
    obtain ⟨cell, hcell⟩ : ∃ cell, plot.cell? (extent c) p = some cell :=
      exists_cell? (hnonneg p hp) (le_extent (List.mem_append_left _ hp)) hpos
    exact ⟨cell, hcell, cell?_lt hcell⟩
  obtain ⟨g, hg, hframes⟩ := plot.exists_grid? c
  refine ⟨hcells, g, hg, fun cell hcolumn hrow => ?_, ?_⟩
  · have hglyph := glyph?_of_grid? hg hcolumn hrow
    exact ⟨hglyph, cell?_pointAt hcolumn hrow hpos.1.ne' hpos.2.ne',
      getElem?_body hframes hglyph⟩
  · obtain ⟨cell, hcell, hcolumn, hrow⟩ :=
      hcells c.exact.point (List.mem_append_right _ List.mem_cons_self)
    exact ⟨cell, hcell, by rw [glyph?_of_grid? hg hcolumn hrow, glyph, if_pos hcell]⟩

/-- The sample program with its optimum, after a walk of two steps that ends where the
learned point is. -/
def shortWalk : Comparison Rat where
  program := .sample
  trajectory := [⟨0.3, 0⟩, ⟨2.1, 3.3⟩]
  learned := some (.ofEntry .sample ⟨21, 33, 1⟩ 40)
  exact := ⟨⟨30 / 13, 42 / 13⟩, 636 / 13, 2⟩
  tally := .zero
  elapsed := .zero

/-- A plot for which no width and a height of three was asked: the walk is seen in one
of its two cells, the learned point in the other. -/
theorem drawing_complete_shortWalk :
    (∀ p ∈ shortWalk.points, 0 ≤ p.x ∧ 0 ≤ p.y) ∧
    ∃ g, (ofSize 0 3).grid? shortWalk = some g ∧
      g.glyph? ⟨0, 2⟩ = some ' ' ∧ g.glyph? ⟨1, 2⟩ = some 'Q' ∧
      g.glyph? ⟨0, 1⟩ = some '.' ∧ g.glyph? ⟨1, 1⟩ = some 'S' ∧
      g.glyph? ⟨0, 0⟩ = some 'o' ∧ g.glyph? ⟨1, 0⟩ = some '.' := by
  have hnonneg : ∀ p ∈ shortWalk.points, 0 ≤ p.x ∧ 0 ≤ p.y := by decide +kernel
  obtain ⟨_, g, hg, hcells, _⟩ := drawing_complete 0 3 shortWalk hnonneg
  have hshows : ∀ {ink : Char} (cell : GridCell), cell.column < 2 → cell.row < 3 →
      (ofSize 0 3).glyph shortWalk cell = ink → g.glyph? cell = some ink :=
    fun cell hcolumn hrow hink => hink ▸ (hcells cell hcolumn hrow).1
  refine ⟨hnonneg, g, hg, ?_, ?_, ?_, ?_, ?_, ?_⟩ <;>
    exact hshows _ (by decide) (by decide) (by decide +kernel)

end Plot

end LatticeLP

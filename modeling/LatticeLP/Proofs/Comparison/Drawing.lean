import LatticeLP.Comparison.Plot

/-!
# Drawing inside the grid

A plot looks up the cell of every point before it draws it, and draws in no cell that
the grid does not have. The look-up accepts only positions below the size of the plot
(`cell?_lt`), whatever the coordinates are – a point far outside the window, infinite or
no number at all has no cell – and drawing changes no size (`Frames.draw`). So there
always is a grid (`exists_grid?`), and a text unless the grid is too wide for its last
line (`exists_text?`).
-/

namespace LatticeLP

namespace Plot

variable {K : Type} [Scalar K] {plot : Plot} {g g' : Grid} {cell : GridCell}

/-- **A grid fits a plot**: it has its height, and all its rows have its width. -/
structure Frames (plot : Plot) (g : Grid) : Prop where
  /-- There is a row for every unit of height. -/
  size : g.size = plot.height
  /-- There is a character for every unit of width. -/
  size_row : ∀ line ∈ g, line.size = plot.width

theorem frames_background (plot : Plot) (program : Program K) (extent : Point K) :
    plot.Frames (plot.background program extent) where
  size := Array.size_ofFn
  size_row line hline := by
    obtain ⟨row, rfl⟩ := Array.mem_ofFn.mp hline
    exact Array.size_ofFn

omit [Scalar K] in
/-- Drawing in a cell below the size of the plot succeeds, and changes no size. -/
theorem Frames.draw (h : plot.Frames g) (hcolumn : cell.column < plot.width)
    (hrow : cell.row < plot.height) (glyph : Char) :
    ∃ g', g.draw? cell glyph = some g' ∧ plot.Frames g' := by
  have hlt : cell.row < g.size := h.size ▸ hrow
  have hcell : g.hasCell cell = true := by
    simp [Grid.hasCell, hlt, h.size_row _ (Array.getElem_mem hlt), hcolumn]
  refine ⟨_, if_pos hcell, ⟨by simpa using h.size, fun line hline => ?_⟩⟩
  obtain ⟨i, hi, rfl⟩ := Array.mem_iff_getElem.mp hline
  have hold : ∀ line ∈ g, (line.setIfInBounds cell.column glyph).size = plot.width :=
    fun line hline => by rw [Array.size_setIfInBounds, h.size_row line hline]
  rw [Array.getElem_modify]
  split
  · exact hold _ (Array.getElem_mem _)
  · exact h.size_row _ (Array.getElem_mem _)

theorem position?_lt {count n : Nat} {coordinate extent : K}
    (h : position? count coordinate extent = some n) : n < count := by
  unfold position? at h
  split at h
  · split at h
    · next hrange =>
      cases h
      omega
    · cases h
  · cases h

/-- **A cell that is looked up is one of the plot.** -/
theorem cell?_lt {extent p : Point K} (h : plot.cell? extent p = some cell) :
    cell.column < plot.width ∧ cell.row < plot.height := by
  obtain ⟨column, hcolumn, h⟩ := Option.bind_eq_some_iff.mp h
  obtain ⟨row, hrow, h⟩ := Option.bind_eq_some_iff.mp h
  cases h
  exact ⟨position?_lt hcolumn, position?_lt hrow⟩

/-- A point can be drawn, wherever it lies. -/
theorem Frames.mark (h : plot.Frames g) (extent : Point K) (glyph : Char) (p : Point K) :
    ∃ g', plot.mark? extent glyph g p = some g' ∧ plot.Frames g' := by
  unfold mark?
  split
  · next cell hcell =>
    obtain ⟨hcolumn, hrow⟩ := cell?_lt hcell
    exact h.draw hcolumn hrow glyph
  · exact ⟨g, rfl, h⟩

/-- So can several. -/
theorem Frames.marks (h : plot.Frames g) (extent : Point K) (glyph : Char)
    (ps : List (Point K)) :
    ∃ g', ps.foldlM (plot.mark? extent glyph) g = some g' ∧ plot.Frames g' := by
  induction ps generalizing g with
  | nil => exact ⟨g, rfl, h⟩
  | cons p ps ih =>
    obtain ⟨g', hg', h'⟩ := h.mark extent glyph p
    rw [List.foldlM_cons, hg']
    exact ih h'

/-- **Every comparison has a grid**, of the size of the plot. -/
theorem exists_grid? (plot : Plot) (c : Comparison K) :
    ∃ g, plot.grid? c = some g ∧ plot.Frames g := by
  obtain ⟨g₁, h₁, hframes₁⟩ :=
    (plot.frames_background c.program (extent c)).marks (extent c) 'o' c.trajectory
  obtain ⟨g₂, h₂, hframes₂⟩ :=
    hframes₁.marks (extent c) 'Q' (c.learned.map (·.point)).toList
  obtain ⟨g₃, h₃, hframes₃⟩ := hframes₂.mark (extent c) 'S' c.exact.point
  refine ⟨g₃, ?_, hframes₃⟩
  simp only [grid?, h₁, Option.bind_eq_bind, Option.bind_some, h₂, h₃]

/-- The last line can be laid out below a grid that is narrower than the widest column. -/
theorem foot?_eq_some_iff {window : Point Float} {foot : String} :
    plot.foot? window = some foot ↔ plot.width < Text.widest ∧
      foot = Text.padLeft (plot.width + 1) ("x ≤ " ++ fixedText 2 window.x) := by
  rw [foot?, Text.padLeft?, Option.ite_none_right_eq_some, Option.some.injEq]
  exact and_congr Iff.rfl eq_comm

/-- **What the text of a plot is made of**: a grid, which there is in any case, and a
last line, which there may not be. -/
theorem text?_eq_some_iff {c : Comparison Float} {text : String} :
    plot.text? c = some text ↔ ∃ g foot,
      plot.grid? c = some g ∧ plot.foot? (extent c) = some foot ∧
      text = "\n".intercalate (plot.body (extent c) g ++ [foot]) := by
  simp only [text?, Option.bind_eq_bind, Option.bind_eq_some_iff, Option.pure_def,
    Option.some.injEq]
  constructor
  · rintro ⟨g, hg, foot, hfoot, rfl⟩
    exact ⟨g, foot, hg, hfoot, rfl⟩
  · rintro ⟨g, foot, hg, hfoot, rfl⟩
    exact ⟨g, hg, foot, hfoot, rfl⟩

/-- **Every comparison has a plot**, if the plot is narrower than the widest column. -/
theorem exists_text? (h : plot.width < Text.widest) (c : Comparison Float) :
    ∃ text, plot.text? c = some text := by
  obtain ⟨g, hg, _⟩ := plot.exists_grid? c
  exact ⟨_, text?_eq_some_iff.mpr ⟨g, _, hg, foot?_eq_some_iff.mpr ⟨h, rfl⟩, rfl⟩⟩

end Plot

end LatticeLP

import LatticeLP.Proofs.Comparison.Contents
import LatticeLP.Proofs.Text.Fields

/-!
# The measures of a plot

Whatever the points of a comparison are, its plot has one line for the height of the
window, one for each row of the grid, one for the axis and one for the width of the
window, and the lines of the grid are as wide as the axis (`Measures`). The line breaks
that are put between the lines are the only ones, since neither the characters of a grid
nor the text of a number is one: the text can be taken apart again into the lines that
it was made of (`splitOn_intercalate_lines`).

There is one limit. The last line is laid out in a column of a computed width, and for a
grid that is wider than such a column can be there is no text, although the grid is
there and the lines above the last one are not limited (`text?_of_widest_le`). The
height is not limited.
-/

namespace LatticeLP

namespace Plot

/-- **The lines of a plot of a given size**: as many as the rows and three more, those
of the grid and the axis one character wider than the grid, the last one at least as
wide. -/
structure Measures (width height : Nat) (lines : List (List Char)) : Prop where
  /-- There are three lines beside the rows. -/
  length_eq : lines.length = height + 3
  /-- The lines of the grid follow the first one. -/
  row : ∀ i < height, ∀ line ∈ lines[i + 1]?, line.length = width + 1
  /-- The axis is below the grid. -/
  axis : ∀ line ∈ lines[height + 1]?, line.length = width + 1
  /-- The last line is at least as wide as the axis. -/
  foot : ∀ line ∈ lines[height + 2]?, width + 1 ≤ line.length

variable {plot : Plot} {g : Grid}

/-- **The lines of a plot have their measures.** -/
theorem Frames.measures (h : plot.Frames g) (window : Point Float) {foot : String}
    (hfoot : plot.width + 1 ≤ foot.length) :
    Measures plot.width plot.height
      ((plot.body window g ++ [foot]).map String.toList) := by
  have hrows : (g.toList.reverse.map fun line => "│" ++ String.ofList line.toList).length
      = plot.height := by
    simp [h.size]
  have hlines : (plot.body window g ++ [foot]).map String.toList
      = ("y ≤ " ++ fixedText 2 window.y).toList ::
        ((g.toList.reverse.map fun line => "│" ++ String.ofList line.toList).map
          String.toList
          ++ [("└" ++ String.ofList (List.replicate plot.width '─')).toList,
            foot.toList]) := by
    simp [body]
  rw [hlines]
  refine ⟨by simp [h.size], fun i hi line hline => ?_, fun line hline => ?_,
    fun line hline => ?_⟩
  · rw [List.getElem?_cons_succ,
      List.getElem?_append_left (by rwa [List.length_map, hrows])] at hline
    obtain ⟨text, htext, rfl⟩ := List.mem_map.mp (List.mem_of_getElem? hline)
    obtain ⟨characters, hcharacters, rfl⟩ := List.mem_map.mp htext
    rw [List.mem_reverse, Array.mem_toList_iff] at hcharacters
    simp [h.size_row _ hcharacters]
  · rw [List.getElem?_cons_succ, List.getElem?_append_right (by simp [h.size]),
      List.length_map, hrows, Nat.sub_self] at hline
    obtain rfl : _ = line := Option.some.inj hline
    simp
  · rw [List.getElem?_cons_succ, List.getElem?_append_right (by simp [h.size]),
      List.length_map, hrows, Nat.add_sub_cancel_left] at hline
    obtain rfl : _ = line := Option.some.inj hline
    exact hfoot

/-! ## Line breaks -/

variable {c : Comparison Float} {text : String}

/-- A solid text is not broken, a line break being a blank. -/
theorem newline_notMem_of_solid {cs : List Char} (h : Text.Solid cs) :
    '\n' ∉ cs := fun hmem =>
  absurd (h _ hmem).2 (by decide)

/-- No cell shows a line break. -/
theorem newline_notMem_of_mem_grid (hg : plot.grid? c = some g) (hframes : plot.Frames g)
    {characters : Array Char} (h : characters ∈ g) : '\n' ∉ characters.toList := by
  intro hmem
  obtain ⟨row, hrow, rfl⟩ := Array.mem_iff_getElem.mp h
  obtain ⟨column, hcolumn, hink⟩ :=
    Array.mem_iff_getElem.mp (Array.mem_toList_iff.mp hmem)
  have hglyph : g.glyph? ⟨column, row⟩ = some (plot.glyph c ⟨column, row⟩) :=
    glyph?_of_grid? hg (hframes.size_row _ h ▸ hcolumn) (hframes.size ▸ hrow)
  simp only [Grid.glyph?, Array.getElem?_eq_getElem hrow, Option.bind_some,
    Array.getElem?_eq_getElem hcolumn, hink, glyph] at hglyph
  split_ifs at hglyph <;> exact absurd hglyph (by decide)

/-- No line of a plot contains a line break. -/
theorem newline_notMem_of_mem_lines (hg : plot.grid? c = some g) (hframes : plot.Frames g)
    {window : Point Float} {foot : String} (hfoot : plot.foot? window = some foot)
    {line : List Char}
    (h : line ∈ (plot.body window g ++ [foot]).map String.toList) : '\n' ∉ line := by
  obtain ⟨_, rfl⟩ := foot?_eq_some_iff.mp hfoot
  have hnumber : ∀ x, '\n' ∉ (fixedText 2 x).toList :=
    fun x => newline_notMem_of_solid (solid_fixedText 2 x)
  simp only [body, List.mem_map, List.mem_append, List.mem_reverse, List.mem_singleton,
    Array.mem_toList_iff] at h
  obtain ⟨text, ((rfl | ⟨characters, hcharacters, rfl⟩) | rfl) | htext, rfl⟩ := h
  · simp [hnumber]
  · simpa using newline_notMem_of_mem_grid hg hframes hcharacters
  · simp
  · cases htext
    simp [Text.padLeft, Text.filling, hnumber]

/-- **The text of a plot can be taken apart into its lines.** -/
theorem splitOn_intercalate_lines (hg : plot.grid? c = some g) (hframes : plot.Frames g)
    {window : Point Float} {foot : String} (hfoot : plot.foot? window = some foot) :
    ("\n".intercalate (plot.body window g ++ [foot])).toList.splitOn '\n'
      = (plot.body window g ++ [foot]).map String.toList := by
  rw [String.toList_intercalate]
  exact List.splitOn_intercalate '\n'
    (fun line hline => newline_notMem_of_mem_lines hg hframes hfoot hline)
    (by simp)

/-- A grid that is too wide has no text. -/
theorem text?_of_widest_le (h : Text.widest ≤ plot.width) (c : Comparison Float) :
    plot.text? c = none := by
  refine Option.eq_none_iff_forall_ne_some.mpr fun text htext => ?_
  obtain ⟨_, _, _, hfoot, _⟩ := text?_eq_some_iff.mp htext
  exact absurd (foot?_eq_some_iff.mp hfoot).1 (not_lt.mpr h)

/-- **A plot of any size that is asked for**, of points with any coordinates. It has a
grid, in which every cell that is drawn in is one of the grid's. It has a text if and
only if a width below that of the widest column was asked for, and the lines of the text
have the measures of the plot. -/
theorem measures_text? (width height : Nat) (c : Comparison Float) :
    let plot := ofSize width height
    (∃ g, plot.grid? c = some g ∧ plot.Frames g) ∧
    ((∃ text, plot.text? c = some text) ↔ width < Text.widest) ∧
    ∀ text, plot.text? c = some text →
      Measures (max width 2) (max height 2) (text.toList.splitOn '\n') := by
  intro plot
  have hwidth : plot.width < Text.widest ↔ width < Text.widest := by
    show max width 2 < Text.widest ↔ width < Text.widest
    rw [Text.widest]
    omega
  refine ⟨plot.exists_grid? c,
    ⟨fun ⟨text, htext⟩ => ?_, fun h => exists_text? (hwidth.mpr h) c⟩,
    fun text htext => ?_⟩
  · obtain ⟨_, _, _, hfoot, _⟩ := text?_eq_some_iff.mp htext
    exact hwidth.mp (foot?_eq_some_iff.mp hfoot).1
  · obtain ⟨g, foot, hg, hfoot, rfl⟩ := text?_eq_some_iff.mp htext
    obtain ⟨g', hg', hframes⟩ := plot.exists_grid? c
    obtain rfl : g' = g := Option.some.inj (hg'.symm.trans hg)
    rw [splitOn_intercalate_lines hg hframes hfoot]
    obtain ⟨_, hfoot⟩ := foot?_eq_some_iff.mp hfoot
    refine hframes.measures (extent c) ?_
    rw [hfoot, Text.length_padLeft]
    exact le_max_left _ _

/-- A plot that is asked for without any width, of points that are neither finite nor in
the quadrant. -/
theorem measures_text?_wild : ∃ (c : Comparison Float) (text : String),
    c.trajectory = [⟨0 / 0, 1 / 0⟩, ⟨-1, -1 / 0⟩] ∧ c.exact.point = ⟨0 / 0, -2⟩ ∧
      (ofSize 0 1).text? c = some text ∧ Measures 2 2 (text.toList.splitOn '\n') := by
  let c : Comparison Float :=
    ⟨.sample, [⟨0 / 0, 1 / 0⟩, ⟨-1, -1 / 0⟩], none, ⟨⟨0 / 0, -2⟩, 0, 0⟩, .zero, .zero⟩
  obtain ⟨_, hnarrow, hmeasures⟩ := measures_text? 0 1 c
  obtain ⟨text, htext⟩ := hnarrow.mpr (by decide)
  exact ⟨c, text, rfl, rfl, htext, hmeasures text htext⟩

/-- **Not every size has a text**: a grid may be too wide for its last line. -/
theorem exists_size_without_text : ∃ (width height : Nat) (c : Comparison Float),
    width < 2 ^ 53 ∧ height < 2 ^ 53 ∧ (∃ g, (ofSize width height).grid? c = some g) ∧
      (ofSize width height).text? c = none := by
  let c : Comparison Float := ⟨.sample, [], none, ⟨.origin, 0, 0⟩, .zero, .zero⟩
  obtain ⟨g, hg, _⟩ := (ofSize 0xffff 2).exists_grid? c
  exact ⟨0xffff, 2, c, by decide, by decide, ⟨g, hg⟩, text?_of_widest_le (by decide) c⟩

end Plot

end LatticeLP

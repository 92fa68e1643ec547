import LatticeLP.Proofs.Tableau.Reachable

/-!
# The layout of a tableau

Written out as a table, a tableau has one line for each row and one for the objective,
all of one width, with the right-hand sides in the last column. What pivots do to the
shape of the table depends on places alone, so this module follows it in any arithmetic:
nothing is asked of the numbers, and not-a-number is one of them.

During the first phase the table has a line more, for the shortfall, and this line too
has the width of the others (`Uniform.withShortfall`). The phase may end in an error,
but not before the line is gone: an optimization leaves the layout it found in all of
its four ways (`Uniform.optimize`).
-/

namespace LatticeLP

namespace Equation

variable {K : Type} (e : Equation K)

/-- The entries of an equation: its coefficients, and the right-hand side behind them. -/
def entries : List K :=
  e.coeffs ++ [e.rhs]

@[simp] theorem length_entries : e.entries.length = e.coeffs.length + 1 :=
  List.length_append

theorem getElem?_entries [Scalar K] {e : Equation K} {j : Nat} (h : j < e.coeffs.length) :
    e.entries[j]? = some (e.coeff j) := by
  rw [entries, List.getElem?_append_left h, List.getElem?_eq_getElem h, coeff,
    List.getD_eq_getElem _ _ h]

theorem getElem?_entries_length : e.entries[e.coeffs.length]? = some e.rhs := by
  rw [entries, List.getElem?_append_right le_rfl, Nat.sub_self]
  rfl

end Equation

namespace Tableau

variable {K : Type}

/-- **The tableau as a table**: the lines of its rows, and behind them those of the
objectives, the one that is being maximised last. -/
def table (t : Tableau K) : List (List K) :=
  t.rows.map (·.entries) ++ (t.price :: t.carried).reverse.map (·.entries)

/-- **The layout of the tableau of a program** with `n` decision variables, `m`
constraints and `k` negative bounds. -/
structure Layout (n m k : Nat) (t : Tableau K) : Prop where
  /-- There is a line for each constraint and one for the objective. -/
  length_table : t.table.length = m + 1
  /-- A line has an entry for each variable and one for the right-hand side. -/
  length_line : ∀ entries ∈ t.table, entries.length = n + m + k + 1
  /-- There is a basic variable for each constraint. -/
  length_basics : t.basics.length = m
  /-- Basic variables are variables. -/
  basic_lt : ∀ b ∈ t.basics, b < n + m + k

variable {t : Tableau K}

/-- **All equations have one width**, the carried objectives as well. -/
structure Uniform (t : Tableau K) : Prop extends Shaped t where
  /-- A carried objective has a coefficient for every column and no more. -/
  carried_width : ∀ e ∈ t.carried, e.coeffs.length = t.width

theorem Shaped.uniform (ht : t.Shaped) (h : t.carried = []) : t.Uniform where
  toShaped := ht
  carried_width := by simp [h]

/-- **Between optimizations a uniform tableau has the layout of its program.** -/
theorem Uniform.layout (ht : t.Uniform) (h : t.carried = []) :
    t.Layout t.decisions t.height t.artificials where
  length_table := by simp [table, h, height]
  length_line entries hentries := by
    simp only [table, h, List.reverse_singleton, List.map_singleton, List.mem_append,
      List.mem_map, List.mem_singleton] at hentries
    obtain ⟨row, hrow, rfl⟩ | rfl := hentries
    · rw [Equation.length_entries, ht.row_width row hrow]
      rfl
    · rw [Equation.length_entries, ht.price_width]
      rfl
  length_basics := length_basics t
  basic_lt b hb := by
    obtain ⟨row, hrow, rfl⟩ := List.mem_map.mp hb
    exact ht.basic_lt row hrow

theorem firstArtificial_le_width (t : Tableau K) : t.firstArtificial ≤ t.width :=
  Nat.le_add_right _ _

/-! ## Pivots -/

variable [Scalar K] {cell : Cell} {cells : List Cell} {tolerance : K}

/-- **A pivot inside the tableau keeps it uniform.** -/
theorem Uniform.pivot (ht : t.Uniform) (hc : cell.column < t.width) :
    (t.pivot cell).Uniform := by
  refine { ht.toShaped.pivot hc with carried_width := fun e he => ?_ }
  cases h : t.rows[cell.row]? with
  | none =>
    have hstay : t.pivot cell = t := by simp only [Tableau.pivot, h]
    rw [hstay] at he ⊢
    exact ht.carried_width e he
  | some row =>
    simp only [Tableau.pivot, h] at he
    obtain ⟨old, hold, rfl⟩ := List.mem_map.mp he
    rw [width_pivot, Equation.length_eliminate, ht.carried_width old hold]
    rw [Equation.length_divide, ht.row_width row (List.mem_of_getElem? h),
      ht.carried_width old hold]

/-- An entering column is a column. -/
theorem Shaped.entering?_lt (ht : t.Shaped) {columns column : Nat}
    (h : t.entering? columns tolerance = some column) : column < t.width :=
  ht.price_width ▸ (entering?_eq_some h).2.1

/-- **Bland's rule stays inside the tableau.** -/
theorem Uniform.pivots_bland {columns : Nat} (ht : t.Uniform)
    (h : t.Follows (BlandStep columns tolerance) cells) : (t.pivots cells).Uniform :=
  h.invariant (fun _ _ hs hc => hs.pivot (hs.entering?_lt hc.1)) ht

/-- **So does eviction.** -/
theorem Uniform.pivots_eviction (ht : t.Uniform)
    (h : t.Follows (EvictionStep tolerance) cells) :
    (t.pivots cells).Uniform :=
  h.invariant
    (fun s _ hs hc => hs.pivot (hc.column_lt.trans_le s.firstArtificial_le_width)) ht

theorem Uniform.ascend (ht : t.Uniform) (columns : Nat) (tolerance : K) (budget : Nat) :
    (t.ascend columns tolerance budget).tableau.Uniform := by
  have hascent := isAscent_ascend columns tolerance budget t
  rw [hascent.tableau_eq]
  exact ht.pivots_bland hascent.follows

theorem Uniform.evict (ht : t.Uniform) (tolerance : K) :
    (t.evict tolerance).1.Uniform := by
  obtain ⟨hpivots, hfollows⟩ := evict_spec t tolerance
  rw [hpivots]
  exact ht.pivots_eviction hfollows

/-! ## The exchange of objectives -/

theorem Uniform.withShortfall (ht : t.Uniform) : t.withShortfall.Uniform where
  row_width := ht.row_width
  price_width := ht.length_shortfallPrice
  basic_lt := ht.basic_lt
  carried_width e he := by
    rcases List.mem_cons.mp he with rfl | he
    · exact ht.price_width
    · exact ht.carried_width e he

omit [Scalar K] in
theorem Uniform.withObjective (ht : t.Uniform) : t.withObjective.Uniform := by
  unfold Tableau.withObjective
  split
  · exact ht
  · next price carried h =>
    exact ⟨⟨ht.row_width, ht.carried_width price (h ▸ List.mem_cons_self), ht.basic_lt⟩,
      fun e he => ht.carried_width e (h ▸ List.mem_cons_of_mem price he)⟩

/-- The pivots of a first phase, made on the tableau itself. -/
theorem Uniform.repairPhase (ht : t.Uniform) (o : Options K) :
    (t.pivots (t.repairPhase o).cells).Uniform := by
  rw [← withObjective_repairPhase]
  exact (ht.withShortfall.ascend _ _ _).withObjective

/-- **An optimization keeps a tableau uniform**, in whichever of its ways it ends. -/
theorem Uniform.optimize (ht : t.Uniform) (o : Options K) :
    (t.optimize o).tableau.Uniform :=
  optimize_cases t o (fun _ => ht.ascend _ _ _) (fun _ _ _ => ht.repairPhase o)
    (fun _ _ _ => ht.repairPhase o) fun _ _ _ =>
      ((ht.repairPhase o).evict o.tolerance).ascend _ _ _

theorem Uniform.optimizeAll (ht : t.Uniform) (os : List (Options K)) :
    (t.optimizeAll os).Uniform :=
  optimizeAll_invariant (fun _ o _ hs => hs.optimize o) ht

/-! ## The tableau of a program -/

section Program

variable {objective bounds : List K} {matrix : List (List K)} {t₀ : Tableau K}
  (shape : ofDense? objective matrix bounds = .ok t₀)

include shape

theorem uniform_of_ofDense? : t₀.Uniform := by
  have hsys : ∀ e ∈ List.zipWith Equation.mk matrix bounds,
      e.coeffs.length = objective.length :=
    fun e he => length_of_mem_zipWith shape he
  obtain ⟨_, _, rfl⟩ := ofDense?_eq_ok_iff.mp shape
  exact (shaped_start hsys).uniform rfl

/-- **After any number of optimizations the tableau has the layout of its program.** -/
theorem layout_optimizeAll (os : List (Options K)) :
    (t₀.optimizeAll os).Layout objective.length matrix.length
      (bounds.countP (· < 0)) := by
  have huniform := (uniform_of_ofDense? shape).optimizeAll os
  obtain ⟨hlength, _, rfl⟩ := ofDense?_eq_ok_iff.mp shape
  obtain ⟨cells, hcells⟩ := exists_optimizeAll_eq_pivots (start objective _) os
  have hlayout := huniform.layout (carried_optimizeAll rfl os)
  rwa [hcells, decisions_pivots, height_pivots, artificials_pivots,
    height_of_ofDense? shape, ← hlength,
    show (start objective _).artificials = _ from negatives_zipWith hlength, ← hcells]
      at hlayout

end Program

end Tableau

end LatticeLP

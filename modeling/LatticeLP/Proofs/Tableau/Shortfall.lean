import Mathlib.Algebra.BigOperators.Fin
import LatticeLP.Proofs.Tableau.RatioTest
import LatticeLP.Proofs.Tableau.Start

/-!
# The shortfall and its repair

The first phase maximises the negated sum of the artificial variables. Its price row
charges one for each of them and is then reduced by the rows in which one is basic; that
makes it a price row in canonical form (`Canonical.withShortfall`) whose value at any
solution is minus the **shortfall** there (`residual_withShortfall`).

Because the shortfall of a solution without negative values is at least zero, the first
phase cannot be unbounded (`repairPhase_stop_ne_unbounded`). If it ends above zero, no
solution of the rows leaves the artificial variables at zero (`Equivalent.not_admits`):
the last prices of the phase certify it, in the same way in which those of the second
phase certify an optimum. A tolerance takes a little from the certificate, in proportion
to the size of a solution (`Equivalent.shortfall_le`).
-/

namespace LatticeLP

namespace Tableau

variable {t t' s : Tableau Rat} {tolerance : Rat} {columns : Nat} {cell : Cell}
  {cells : List Cell}

/-! ## Invariants of runs -/

/-- **Pivots at entries that are not zero keep the canonical form and what the tableau
says.** -/
theorem Follows.canonical (h : t.Follows Pivotal cells) (ht : t.Canonical) :
    (t.pivots cells).Canonical ∧ t.Equivalent (t.pivots cells) := by
  refine h.invariant (P := fun s => s.Canonical ∧ t.Equivalent s) (fun s cell hs hc => ?_)
    ⟨ht, Equivalent.refl t⟩
  exact ⟨hs.1.pivot hc, hs.2.trans (hs.1.equivalent_pivot hc)⟩

theorem Follows.pivotal_of_bland (h0 : 0 ≤ tolerance)
    (h : t.Follows (BlandStep columns tolerance) cells) : t.Follows Pivotal cells :=
  h.imp (P := fun _ => True) (fun _ _ _ _ => trivial)
    (fun _ _ _ hc => hc.pivotal h0) trivial

theorem Follows.pivotal_of_eviction (h0 : 0 ≤ tolerance)
    (h : t.Follows (EvictionStep tolerance) cells) : t.Follows Pivotal cells :=
  h.imp (P := fun _ => True) (fun _ _ _ _ => trivial)
    (fun _ _ _ hc => hc.pivotal h0) trivial

/-- Where a pivot may divide depends on the rows alone. -/
theorem Follows.pivotal_congr (hrows : t.rows = t'.rows) (h : t.Follows Pivotal cells) :
    t'.Follows Pivotal cells := by
  induction cells generalizing t t' with
  | nil => trivial
  | cons cell cells ih =>
    obtain ⟨⟨row, hrow, ha⟩, hrest⟩ := h
    exact ⟨⟨row, hrows ▸ hrow, ha⟩, ih (rows_pivot_congr hrows cell) hrest⟩

theorem Follows.ratio_of_bland (h : t.Follows (BlandStep columns 0) cells) :
    t.Follows (RatioStep columns) cells :=
  h.imp (P := fun _ => True) (fun _ _ _ _ => trivial)
    (fun _ _ _ hc => hc.ratioStep) trivial

theorem Follows.pivotal_of_ratio (h : t.Follows (RatioStep columns) cells) :
    t.Follows Pivotal cells :=
  h.imp (P := fun _ => True) (fun _ _ _ _ => trivial) (fun _ _ _ hc => hc.pivotal) trivial

/-- **Exact ratio tests keep the right-hand sides non-negative.** -/
theorem Follows.nonneg (h : t.Follows (RatioStep columns) cells) (ht : t.Canonical)
    (hn : t.Nonneg) : (t.pivots cells).Nonneg := by
  refine (h.invariant (P := fun s => s.Canonical ∧ s.Nonneg) (fun s cell hs hc => ?_)
    ⟨ht, hn⟩).2
  exact ⟨hs.1.pivot hc.pivotal, hc.nonneg_pivot hs.1 hs.2⟩

/-! ## The price row of the shortfall -/

/-- The sum of the artificial variables. -/
def shortfallAt (t : Tableau Rat) (v : Nat → Rat) : Rat :=
  ∑ j ∈ Finset.range t.artificials, v (t.firstArtificial + j)

theorem linear_replicate_one (n : Nat) (v : Nat → Rat) :
    linear (List.replicate n 1) v = ∑ j ∈ Finset.range n, v j := by
  unfold linear
  rw [List.length_replicate]
  refine Finset.sum_congr rfl fun j hj => ?_
  rw [List.getD_replicate _ (Finset.mem_range.mp hj), one_mul]

section Width

variable {K : Type} [Scalar K] {t : Tableau K}

/-- Subtracting rows one after the other keeps the width. -/
theorem length_foldl_subtract (rows : List (Row K)) {e : Equation K}
    (h : ∀ row ∈ rows, row.coeffs.length = e.coeffs.length) :
    (rows.foldl (fun e row => e.subtract row.toEquation) e).coeffs.length
      = e.coeffs.length := by
  induction rows generalizing e with
  | nil => rfl
  | cons row rows ih =>
    have hlength := Equation.length_subtract (h row List.mem_cons_self).symm
    rw [List.foldl_cons, ih fun other hother => ?_, hlength]
    rw [hlength, h other (List.mem_cons_of_mem row hother)]

/-- **The price row of the shortfall has the width of the tableau.** -/
theorem Shaped.length_shortfallPrice (ht : t.Shaped) :
    t.shortfallPrice.coeffs.length = t.width := by
  have hcolumns :
    (List.replicate t.firstArtificial (0 : K) ++ List.replicate t.artificials 1).length
      = t.width := by simp [width]
  rw [shortfallPrice, length_foldl_subtract]
  · exact hcolumns
  · exact fun row hrow =>
      (ht.row_width row (List.mem_of_mem_filter hrow)).trans hcolumns.symm

end Width

/-- Subtracting rows one after the other subtracts their coefficients. -/
theorem foldl_subtract (rows : List (Row Rat)) {e : Equation Rat}
    (h : ∀ row ∈ rows, row.coeffs.length = e.coeffs.length) :
    (∀ j, (rows.foldl (fun e row => e.subtract row.toEquation) e).coeff j
        = e.coeff j - (rows.map (·.coeff j)).sum) ∧
      ∀ v, (rows.foldl (fun e row => e.subtract row.toEquation) e).residual v
        = e.residual v - (rows.map (·.residual v)).sum := by
  induction rows generalizing e with
  | nil => exact ⟨fun j => by simp, fun v => by simp⟩
  | cons row rows ih =>
    have hrow := (h row List.mem_cons_self).symm
    obtain ⟨hcoeff, hres⟩ := ih (e := e.subtract row.toEquation) fun other hother => by
      rw [Equation.length_subtract hrow, h other (List.mem_cons_of_mem row hother)]
    refine ⟨fun j => ?_, fun v => ?_⟩
    · rw [List.foldl_cons, hcoeff, Equation.coeff_subtract hrow, List.map_cons,
        List.sum_cons]
      ring
    · rw [List.foldl_cons, hres, Equation.residual_subtract hrow, List.map_cons,
        List.sum_cons]
      ring

/-- Summing a column of a basic variable over some rows counts the variable's own row. -/
theorem Canonical.sum_coeff_basic (ht : t.Canonical) {row : Row Rat} (h : row ∈ t.rows)
    (p : Row Rat → Bool) :
    ((t.rows.filter p).map (·.coeff row.basic)).sum = if p row then 1 else 0 := by
  obtain ⟨k, hk, rfl⟩ := List.getElem_of_mem h
  have hfilter : ∀ rows : List (Row Rat),
    ((rows.filter p).map (·.coeff t.rows[k].basic)).sum
      = (rows.map fun s => if p s then s.coeff t.rows[k].basic else 0).sum := by
    intro rows
    induction rows with
    | nil => rfl
    | cons s rows ih => by_cases hs : p s <;> simp [hs, ih]
  rw [hfilter, ← Fin.sum_univ_fun_getElem, Finset.sum_eq_single ⟨k, hk⟩]
  · show (if p t.rows[k] then t.rows[k].coeff t.rows[k].basic else 0) = _
    rw [ht.coeff_basic h]
  · intro i _ hi
    have hunit := ht.unit (List.getElem?_eq_getElem i.isLt) (List.getElem?_eq_getElem hk)
    rw [if_neg fun heq : i.val = k => hi (Fin.ext heq)] at hunit
    show (if p t.rows[i.val] then t.rows[i.val].coeff t.rows[k].basic else 0) = 0
    rw [hunit, ite_self]
  · intro hk'
    exact absurd (Finset.mem_univ _) hk'

/-- What the shortfall charges for each variable before any row is subtracted. -/
def charges (t : Tableau Rat) : Equation Rat :=
  ⟨List.replicate t.firstArtificial 0 ++ List.replicate t.artificials 1, 0⟩

theorem length_charges : t.charges.coeffs.length = t.width := by
  rw [charges, List.length_append, List.length_replicate, List.length_replicate, width]

theorem coeff_charges {j : Nat} (h : j < t.width) :
    t.charges.coeff j = if t.firstArtificial ≤ j then 1 else 0 := by
  unfold charges Equation.coeff
  rcases lt_or_ge j t.firstArtificial with hlt | hge
  · rw [List.getD_append _ _ _ _ (by simpa using hlt), List.getD_replicate _ hlt,
      if_neg (not_le.mpr hlt)]
  · rw [List.getD_append_right _ _ _ _ (by simpa using hge), List.length_replicate,
      List.getD_replicate _ (by rw [width] at h; omega), if_pos hge]

theorem residual_charges (v : Nat → Rat) : t.charges.residual v = -t.shortfallAt v := by
  rw [Equation.residual, charges, linear_append, linear_replicate_zero,
    linear_replicate_one, List.length_replicate, shortfallAt]
  ring

theorem Canonical.foldl_charges (ht : t.Canonical) :
    (∀ j, t.shortfallPrice.coeff j = t.charges.coeff j
        - ((t.rows.filter (t.firstArtificial ≤ ·.basic)).map (·.coeff j)).sum) ∧
      ∀ v, t.shortfallPrice.residual v = t.charges.residual v
        - ((t.rows.filter (t.firstArtificial ≤ ·.basic)).map (·.residual v)).sum :=
  foldl_subtract _ fun row hrow => by
    rw [ht.row_width row (List.mem_of_mem_filter hrow)]
    exact length_charges.symm

/-- **The shortfall takes the place of the objective in canonical form.** -/
theorem Canonical.withShortfall (ht : t.Canonical) : t.withShortfall.Canonical := by
  refine
    { row_width := ht.row_width
      price_width := ht.length_shortfallPrice
      basic_lt := ht.basic_lt
      unit := ht.unit
      priced := fun row hrow => ?_ }
  show t.shortfallPrice.coeff row.basic = 0
  rw [ht.foldl_charges.1, ht.sum_coeff_basic hrow, coeff_charges (ht.basic_lt row hrow)]
  simp

/-- **The objective of the first phase is minus the shortfall.** -/
theorem Canonical.residual_withShortfall (ht : t.Canonical) {v : Nat → Rat}
    (hv : t.Solves v) :
    t.withShortfall.price.residual v = -t.shortfallAt v := by
  have hzero : ((t.rows.filter (t.firstArtificial ≤ ·.basic)).map (·.residual v)).sum
      = 0 :=
    List.sum_eq_zero fun x hx => by
      obtain ⟨row, hrow, rfl⟩ := List.mem_map.mp hx
      exact hv row (List.mem_of_mem_filter hrow)
  rw [show t.withShortfall.price.residual v = _ from ht.foldl_charges.2 v, hzero,
    residual_charges, sub_zero]

/-! ## The first phase -/

theorem shortfallAt_nonneg {v : Nat → Rat} (h : ∀ j, 0 ≤ v j) : 0 ≤ t.shortfallAt v :=
  Finset.sum_nonneg fun _ _ => h _

/-- Along an edge with a negative price the objective exceeds any bound. -/
theorem exists_along_gt {price : Rat} (h : price < 0) (a bound : Rat) :
    ∃ y, 0 ≤ y ∧ bound < a - y * price := by
  refine ⟨(|bound - a| + 1) / -price, div_nonneg (by positivity) (by linarith), ?_⟩
  rw [div_neg, neg_mul, div_mul_cancel₀ _ h.ne]
  linarith [le_abs_self (bound - a)]

section Repair

variable {o : Options Rat} (ht : t.Canonical)

include ht

/-- What the first phase leaves: a canonical tableau that says what the fresh one says
and still has the shortfall for an objective. -/
theorem canonical_repairPhase (h0 : 0 ≤ o.tolerance) :
    (t.repairPhase o).tableau.Canonical ∧
      t.withShortfall.Equivalent (t.repairPhase o).tableau := by
  have hphase := isAscent_repairPhase t o
  rw [hphase.tableau_eq]
  exact (hphase.follows.pivotal_of_bland h0).canonical ht.withShortfall

/-- In a tableau that says what the fresh one says about the shortfall, the objective of
a solution is minus its shortfall. -/
theorem Equivalent.residual_price (he : t.withShortfall.Equivalent s) {v : Nat → Rat}
    (hv : s.Solves v) : s.price.residual v = -t.shortfallAt v := by
  have hv' : t.Solves v := (he.solves_iff v).mp hv
  rw [he.objective v hv', ht.residual_withShortfall hv']

/-- **The shortfall does not fall without limit**: where a column has a negative price,
something leaves. -/
theorem Equivalent.leaving?_ne_none (he : t.withShortfall.Equivalent s) (hs : s.Canonical)
    (hn : s.Nonneg) {column : Nat} (hprice : s.price.coeff column < 0) :
    s.leaving? column 0 ≠ none := by
  intro hleave
  obtain ⟨y, hy, hgt⟩ := exists_along_gt hprice s.value 0
  have hpos := hs.along_nonneg hn (hs.notMem_basics_of_price hprice.ne) hleave hy
  rw [← hs.residual_price_along, he.residual_price ht (hs.solves_along column y)] at hgt
  linarith [shortfallAt_nonneg (t := t) hpos]

/-- The first phase keeps the right-hand sides non-negative, with the tolerance at
zero. -/
theorem repairPhase_nonneg (hn : t.Nonneg) (budget : Nat) :
    (t.repairPhase ⟨0, budget⟩).tableau.Nonneg := by
  have hphase := isAscent_repairPhase t ⟨0, budget⟩
  rw [hphase.tableau_eq]
  exact hphase.follows.ratio_of_bland.nonneg ht.withShortfall hn

/-- **The first phase is never unbounded**: a shortfall does not fall below zero. -/
theorem repairPhase_stop_ne_unbounded (hn : t.Nonneg) (budget column : Nat) :
    (t.repairPhase ⟨0, budget⟩).stop ≠ .unbounded column := by
  intro hstop
  obtain ⟨hcan, he⟩ := canonical_repairPhase ht (o := ⟨0, budget⟩) le_rfl
  obtain ⟨henter, hleave⟩ := (isAscent_repairPhase t ⟨0, budget⟩).unbounded column hstop
  exact he.leaving?_ne_none ht hcan (repairPhase_nonneg ht hn budget)
    (price_neg_of_entering? le_rfl henter) hleave

/-- **A shortfall that remains keeps admissible valuations far away**: by the tolerance,
each unit of their variables makes up for so much of it at most. -/
theorem Equivalent.shortfall_le (he : t.withShortfall.Equivalent s) (h0 : 0 ≤ tolerance)
    (h : s.entering? (t.firstArtificial + t.artificials) tolerance = none) {v : Nat → Rat}
    (hv : t.Admits v) :
    -s.value ≤ tolerance * ∑ j ∈ Finset.range t.firstArtificial, v j := by
  have hle := residual_le_value_add h0 h (Nat.le_add_right _ _) hv.nonneg hv.clear
  have hzero : t.shortfallAt v = 0 :=
    Finset.sum_eq_zero fun j _ => hv.clear _ (Nat.le_add_right _ _)
  rw [he.residual_price ht ((he.solves_iff v).mpr hv.solves), hzero] at hle
  linarith

/-- **A shortfall that remains leaves no admissible valuation**, where no column has a
negative price. -/
theorem Equivalent.not_admits (he : t.withShortfall.Equivalent s)
    (h : s.entering? (t.firstArtificial + t.artificials) 0 = none)
    (hshort : ¬ -s.value ≤ 0) (v : Nat → Rat) : ¬ t.Admits v :=
  fun hv => hshort (by simpa using he.shortfall_le ht le_rfl h hv)

end Repair

end Tableau

end LatticeLP

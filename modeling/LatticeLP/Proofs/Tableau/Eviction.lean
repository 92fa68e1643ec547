import LatticeLP.Proofs.Tableau.Shortfall

/-!
# Evicting artificial variables

A first phase that ends with a shortfall of zero may leave artificial variables in the
basis, at zero. Eviction pivots them out one row after the other. Its entries may have
either sign, so nothing of the ratio test is left to protect the right-hand sides – but
the row it pivots on has a right-hand side of zero, so no right-hand side changes
(`Settled.pivot`), and the rows still to come stay as they were.

A row without an entry to pivot on would be redundant and would keep its artificial
variable. There is no such row: the slack variables let the artificial ones take any
values (`Free`), while a row that mentions artificial variables alone would bind them
(`Free.exists_coeff_ne_zero`). Eviction therefore clears the basis
(`Settled.ready_evict`), and the second phase, which lets no artificial variable enter,
starts from and keeps to tableaux that are **ready** – where the basic solution is
admissible.
-/

namespace LatticeLP

namespace Tableau

/-! ## Cleared rows -/

section Cleared

variable {K : Type} [Scalar K] {t : Tableau K} {i : Nat}

/-- The basic variable of a row is not artificial. -/
def Cleared (t : Tableau K) (i : Nat) : Prop :=
  ∀ b, t.basics[i]? = some b → b < t.firstArtificial

/-- A pivot in front of the artificial columns clears its row and leaves no other one
less clear. -/
theorem cleared_pivot {cell : Cell} (hc : cell.column < t.firstArtificial)
    (h : i = cell.row ∨ t.Cleared i) : (t.pivot cell).Cleared i := by
  intro b hb
  rw [firstArtificial_pivot]
  rw [basics_pivot, List.getElem?_set] at hb
  split at hb
  · split at hb
    · cases hb
      exact hc
    · cases hb
  · next hne => exact h.resolve_left (Ne.symm hne) b hb

theorem EvictionStep.column_lt {tolerance : K} {cell : Cell}
    (h : EvictionStep tolerance t cell) :
    cell.column < t.firstArtificial := by
  obtain ⟨_, _, _, hfind, _⟩ := eviction?_eq_some_iff.mp h
  exact List.mem_range.mp (List.mem_of_find?_eq_some hfind)

/-- Rows that are cleared stay cleared during eviction. -/
theorem Cleared.evictFrom (h : t.Cleared i) (tolerance : K) (rows : List Nat) :
    (Tableau.evictFrom tolerance rows t).1.Cleared i := by
  rw [(evictFrom_spec tolerance rows t).1]
  exact (evictFrom_spec tolerance rows t).2.invariant (P := fun s => s.Cleared i)
    (fun _ _ hs hc => cleared_pivot hc.column_lt (Or.inr hs)) h

end Cleared

variable {t t' s : Tableau Rat} {cell : Cell} {budget : Nat}

/-! ## No row is redundant -/

/-- **Artificial variables may take any values**: the rows have a solution with each
choice of them. -/
def Free (t : Tableau Rat) : Prop :=
  ∀ a : Nat → Rat, ∃ v, t.Solves v ∧ ∀ j, t.firstArtificial ≤ j → v j = a j

theorem Equivalent.free (h : t.Equivalent t') (hf : t.Free) : t'.Free := by
  intro a
  obtain ⟨v, hv, ha⟩ := hf a
  exact ⟨v, (h.solves_iff v).mpr hv, h.firstArtificial ▸ ha⟩

/-- A row that mentions artificial variables alone has one right-hand side for all their
values. -/
theorem Free.exists_coeff_ne_zero (hf : t.Free) (ht : t.Canonical) {row : Row Rat}
    (h : row ∈ t.rows) : ∃ j < t.firstArtificial, row.coeff j ≠ 0 := by
  by_contra hall
  simp only [not_exists, not_and, not_not] at hall
  have hlinear : ∀ a : Nat → Rat, linear row.coeffs a = row.rhs := by
    intro a
    obtain ⟨v, hv, ha⟩ := hf a
    have hres := hv row h
    rw [Equation.residual, sub_eq_zero] at hres
    rw [hres]
    refine Finset.sum_congr rfl fun j _ => ?_
    rcases lt_or_ge j t.firstArtificial with hlt | hge
    · rw [show row.coeffs.getD j 0 = 0 from hall j hlt, zero_mul, zero_mul]
    · rw [ha j hge]
  -- the values zero and the unit of the row's own variable disagree
  have hzero := hlinear fun _ => 0
  have hunit := hlinear fun j => if j = row.basic then 1 else 0
  rw [linear_single, show row.coeffs.getD row.basic 0 = 1 from ht.coeff_basic h] at hunit
  rw [show linear row.coeffs (fun _ => 0) = 0 from
    Finset.sum_eq_zero fun _ _ => mul_zero _, ← hunit] at hzero
  exact zero_ne_one hzero

/-- With the tolerance at zero, only a cleared row has nothing to evict. -/
theorem Free.cleared_of_eviction?_eq_none (hf : t.Free) (ht : t.Canonical) {i : Nat}
    (h : t.eviction? 0 i = none) : t.Cleared i := by
  intro b hb
  obtain ⟨row, hrow, rfl⟩ :=
    Option.map_eq_some_iff.mp ((List.getElem?_map ..).symm.trans hb)
  by_contra hge
  obtain ⟨j, hj, hne⟩ := hf.exists_coeff_ne_zero ht (List.mem_of_getElem? hrow)
  cases hfind : (List.range t.firstArtificial).find?
      fun j => (0 : Rat) < Scalar.abs (row.coeff j) with
  | none =>
    have hno := List.find?_eq_none.mp hfind j (List.mem_range.mpr hj)
    refine hno (decide_eq_true ?_)
    unfold Scalar.abs
    rcases lt_or_gt_of_ne hne with hlt | hgt
    · rw [if_pos hlt]
      linarith
    · rw [if_neg hgt.not_gt]
      exact hgt
  | some column =>
    have hsome : t.eviction? 0 i = some ⟨i, column⟩ :=
      eviction?_eq_some_iff.mpr ⟨row, hrow, not_lt.mp hge, hfind, rfl⟩
    rw [hsome] at h
    cases h

/-! ## Eviction with the tolerance at zero -/

/-- **Artificial variables in the basis are zero.** -/
def Settled (t : Tableau Rat) : Prop :=
  ∀ row ∈ t.rows, t.firstArtificial ≤ row.basic → row.rhs = 0

/-- **A pivot that evicts from a settled tableau changes no right-hand side.** -/
theorem Settled.rhs_pivot (hs : t.Settled) (ht : t.Canonical) (hc : EvictionStep 0 t cell)
    {new : Row Rat} (hnew : new ∈ (t.pivot cell).rows) :
    new.rhs = 0 ∨ ∃ other ∈ t.rows, new.basic = other.basic ∧ new.rhs = other.rhs := by
  obtain ⟨row, hrow, hge, _⟩ := eviction?_eq_some_iff.mp hc
  have hzero : row.rhs / row.coeff cell.column = 0 := by
    rw [hs row (List.mem_of_getElem? hrow) hge, zero_div]
  rcases ht.rhs_pivot hrow hnew with heq | ⟨other, hother, hbasic, heq⟩
  · exact Or.inl (heq.trans hzero)
  · refine Or.inr ⟨other, hother, hbasic, ?_⟩
    rw [heq, hzero, mul_zero, sub_zero]

theorem Settled.pivot (hs : t.Settled) (ht : t.Canonical) (hc : EvictionStep 0 t cell) :
    (t.pivot cell).Settled := by
  intro new hnew hge
  rcases hs.rhs_pivot ht hc hnew with heq | ⟨other, hother, hbasic, heq⟩
  · exact heq
  · rw [heq]
    rw [firstArtificial_pivot, hbasic] at hge
    exact hs other hother hge

theorem Settled.nonneg_pivot (hs : t.Settled) (ht : t.Canonical) (hn : t.Nonneg)
    (hc : EvictionStep 0 t cell) : (t.pivot cell).Nonneg := by
  intro new hnew
  rcases hs.rhs_pivot ht hc hnew with heq | ⟨other, hother, _, heq⟩
  · exact heq.ge
  · rw [heq]
    exact hn other hother

/-- **A tableau that is ready for the second phase**: in canonical form, without a
negative right-hand side and without an artificial variable in the basis. -/
structure Ready (t : Tableau Rat) : Prop extends Canonical t where
  /-- No right-hand side is negative. -/
  nonneg : t.Nonneg
  /-- No artificial variable is basic. -/
  clear : ∀ b ∈ t.basics, b < t.firstArtificial

/-- **The basic solution of a ready tableau is admissible.** -/
theorem Ready.admits_valueAt (hr : t.Ready) : t.Admits t.valueAt where
  solves := hr.toCanonical.solves_valueAt
  nonneg := hr.toCanonical.valueAt_nonneg hr.nonneg
  clear j hj := valueAt_of_notMem fun hmem => absurd (hr.clear j hmem) (not_lt.mpr hj)

/-- Without artificial variables there is nothing to clear. -/
theorem Canonical.ready (ht : t.Canonical) (hn : t.Nonneg) (h : t.artificials = 0) :
    t.Ready where
  toCanonical := ht
  nonneg := hn
  clear b hb := by
    obtain ⟨row, hrow, rfl⟩ := List.mem_map.mp hb
    have hlt := ht.basic_lt row hrow
    rwa [width, h, Nat.add_zero] at hlt

/-- **Eviction clears the rows it is given**: each when its turn comes, and it stays
so. -/
theorem Free.cleared_evictFrom {rows : List Nat} (hf : t.Free)
    (ht : t.Canonical) {i : Nat} (hi : i ∈ rows) : (evictFrom 0 rows t).1.Cleared i := by
  induction rows generalizing t with
  | nil => exact absurd hi List.not_mem_nil
  | cons row rows ih =>
    unfold evictFrom
    split
    · next hnone =>
      rcases List.mem_cons.mp hi with rfl | hi
      · exact (hf.cleared_of_eviction?_eq_none ht hnone).evictFrom 0 rows
      · exact ih hf ht hi
    · next cell hcell =>
      obtain ⟨_, _, _, _, rfl⟩ := eviction?_eq_some_iff.mp hcell
      have hstep : EvictionStep 0 t cell := hcell
      have hpivotal := hstep.pivotal le_rfl
      rcases List.mem_cons.mp hi with rfl | hi
      · exact (cleared_pivot hstep.column_lt (Or.inl rfl)).evictFrom 0 rows
      · exact ih ((ht.equivalent_pivot hpivotal).free hf) (ht.pivot hpivotal) hi

/-- **A settled tableau with free artificial variables is ready after eviction.** -/
theorem Settled.ready_evict (hs : t.Settled) (ht : t.Canonical) (hn : t.Nonneg)
    (hf : t.Free) :
    (t.evict 0).1.Ready ∧ t.Equivalent (t.evict 0).1 := by
  obtain ⟨hpivots, hfollows⟩ := evict_spec t 0
  obtain ⟨hcan, heq⟩ := (hfollows.pivotal_of_eviction le_rfl).canonical ht
  have hnn : (t.pivots (t.evict 0).2).Nonneg := by
    refine (hfollows.invariant (P := fun s => s.Canonical ∧ s.Settled ∧ s.Nonneg)
      (fun s cell h hc => ?_) ⟨ht, hs, hn⟩).2.2
    exact ⟨h.1.pivot (hc.pivotal le_rfl), h.2.1.pivot h.1 hc,
      h.2.1.nonneg_pivot h.1 h.2.2 hc⟩
  rw [hpivots]
  refine ⟨⟨hcan, hnn, fun b hb => ?_⟩, heq⟩
  obtain ⟨i, hi⟩ := List.mem_iff_getElem?.mp hb
  have hlt : i < t.height := by
    have := (List.getElem?_eq_some_iff.mp hi).1
    rwa [length_basics, height_pivots] at this
  rw [← hpivots] at hi ⊢
  exact hf.cleared_evictFrom ht (List.mem_range.mpr hlt) b hi

/-- **Where there is no shortfall, the artificial variables in the basis are zero.** -/
theorem Equivalent.settled (he : t.withShortfall.Equivalent s) (ht : t.Canonical)
    (hs : s.Canonical) (hn : s.Nonneg) (hshort : -s.value ≤ 0) : s.Settled := by
  -- the artificial variables add up to the shortfall, and none of them is negative
  have hsum : t.shortfallAt s.valueAt = 0 := by
    refine le_antisymm ?_ (shortfallAt_nonneg (hs.valueAt_nonneg hn))
    have := he.residual_price ht hs.solves_valueAt
    rw [hs.residual_price_valueAt] at this
    linarith
  intro row hrow hge
  have hlt : row.basic < t.firstArtificial + t.artificials := by
    have := hs.basic_lt row hrow
    rwa [he.width] at this
  rw [he.firstArtificial] at hge
  obtain ⟨j, hj⟩ := Nat.exists_eq_add_of_le (show t.firstArtificial ≤ row.basic from hge)
  have hzero :=
    (Finset.sum_eq_zero_iff_of_nonneg fun _ _ => hs.valueAt_nonneg hn _).mp hsum j
      (Finset.mem_range.mpr (by omega))
  rw [← hj, hs.valueAt_basic hrow] at hzero
  exact hzero

/-- The pivots of a first phase, made on the tableau itself. -/
theorem follows_repairPhase {tolerance : Rat} (h0 : 0 ≤ tolerance) :
    t.Follows Pivotal (t.repairPhase ⟨tolerance, budget⟩).cells := by
  have hrows : t.withShortfall.rows = t.rows := rfl
  have hphase := (isAscent_repairPhase t ⟨tolerance, budget⟩).follows
  exact (hphase.pivotal_of_bland h0).pivotal_congr hrows

/-- The rows that the first phase leaves are those of its pivots on the tableau itself. -/
theorem rows_repairPhase (t : Tableau Rat) (o : Options Rat) :
    (t.pivots (t.repairPhase o).cells).rows = (t.repairPhase o).tableau.rows := by
  rw [(isAscent_repairPhase t o).tableau_eq]
  exact rows_pivots_congr (show t.rows = t.withShortfall.rows from rfl) _

/-- The first phase keeps the right-hand sides non-negative. -/
theorem nonneg_repairPhase (ht : t.Canonical) (hn : t.Nonneg) :
    (t.pivots (t.repairPhase ⟨0, budget⟩).cells).Nonneg := fun row hrow =>
  repairPhase_nonneg ht hn budget row (rows_repairPhase t ⟨0, budget⟩ ▸ hrow)

/-- **A first phase that ends without a shortfall leaves a settled tableau.** -/
theorem settled_repairPhase {o : Options Rat} (ht : t.Canonical) (h0 : 0 ≤ o.tolerance)
    (hn : (t.repairPhase o).tableau.Nonneg)
    (hshort : -(t.repairPhase o).tableau.value ≤ 0) :
    (t.pivots (t.repairPhase o).cells).Settled := by
  obtain ⟨hcan, he⟩ := canonical_repairPhase ht h0
  intro row hrow hge
  rw [rows_repairPhase] at hrow
  rw [firstArtificial_pivots] at hge
  exact he.settled ht hcan hn hshort row hrow (he.firstArtificial.symm ▸ hge)

/-- **The second phase starts from a ready tableau** that says what the fresh one says. -/
theorem ready_repaired (ht : t.Canonical) (hn : t.Nonneg) (hf : t.Free)
    (hshort : -(t.repairPhase ⟨0, budget⟩).tableau.value ≤ 0) :
    (t.repaired ⟨0, budget⟩).1.Ready ∧ t.Equivalent (t.repaired ⟨0, budget⟩).1 := by
  have hfollows : t.Follows Pivotal (t.repairPhase ⟨0, budget⟩).cells :=
    follows_repairPhase le_rfl
  obtain ⟨hcan, heq⟩ := hfollows.canonical ht
  have hsettled :=
    settled_repairPhase ht (o := ⟨0, budget⟩) le_rfl (repairPhase_nonneg ht hn budget)
      hshort
  obtain ⟨hready, heq'⟩ :=
    hsettled.ready_evict hcan (nonneg_repairPhase ht hn) (heq.free hf)
  exact ⟨hready, heq.trans heq'⟩

/-- **Exact ratio tests over the columns in front of the artificial ones keep a tableau
ready.** -/
theorem Ready.pivots (hr : t.Ready) {cells : List Cell}
    (h : t.Follows (RatioStep t.firstArtificial) cells) :
    (t.pivots cells).Ready ∧ t.Equivalent (t.pivots cells) := by
  obtain ⟨hcan, heq⟩ := h.pivotal_of_ratio.canonical hr.toCanonical
  refine ⟨⟨hcan, h.nonneg hr.toCanonical hr.nonneg, ?_⟩, heq⟩
  rw [firstArtificial_pivots]
  exact h.invariant (P := fun s => ∀ b ∈ s.basics, b < t.firstArtificial)
    (fun _ _ hs hc => basics_pivot_lt hs hc.1) hr.clear

end Tableau

end LatticeLP

import LatticeLP.Proofs.Tableau.Verdict

/-!
# Where the tolerance blurs nothing

A tolerance is compared with prices, with entries, with differences of ratios and with
the shortfall, and none of these is scaled. What it does to a verdict therefore depends
on magnitudes alone: an entry within it counts as zero though it is none, and two ratios
within it of each other count as equal though they differ. A tableau in which there are
no such numbers is **sharp**, and there the ratio test and eviction decide as they would
with the tolerance at zero (`Sharp.leaving?_eq`, `Sharp.eviction?_eq`).

Prices are the exception. A price within the tolerance keeps a column from entering, and
the pivots of a run are then not those of an exact run. But any column with a negative
price may enter: it is the ratio test that protects the right-hand sides, and the exact
ratio test does so for each of them. A run whose tableaux are sharp, and whose shortfall
is zero if it is within the tolerance, hence arrives at a feasible point if it arrives
at an optimum, and at a ray of feasible points if it ends along a column
(`SharpRun.grounded`).
-/

namespace LatticeLP

theorem Scalar.abs_rational (x : Rat) : Scalar.abs x = |x| := by
  unfold Scalar.abs
  split
  · next h => exact (abs_of_neg h).symm
  · next h => exact (abs_of_nonneg (not_lt.mp h)).symm

/-! ## Sharp tableaux -/

/-- An equation without small coefficients: one within the tolerance is zero. -/
def Equation.Sharp (tolerance : Rat) (e : Equation Rat) : Prop :=
  ∀ j, |e.coeff j| ≤ tolerance → e.coeff j = 0

theorem Equation.Sharp.lt_abs_iff {e : Equation Rat} {tolerance : Rat}
    (h : e.Sharp tolerance)
    (h0 : 0 ≤ tolerance) (j : Nat) : tolerance < |e.coeff j| ↔ 0 < |e.coeff j| := by
  refine ⟨h0.trans_lt, fun hpos => lt_of_not_ge fun hle => ?_⟩
  rw [h j hle, abs_zero] at hpos
  exact lt_irrefl 0 hpos

theorem Equation.Sharp.lt_iff {e : Equation Rat} {tolerance : Rat} (h : e.Sharp tolerance)
    (h0 : 0 ≤ tolerance) (j : Nat) : tolerance < e.coeff j ↔ 0 < e.coeff j := by
  refine ⟨h0.trans_lt, fun hpos => ?_⟩
  have hlt := (h.lt_abs_iff h0 j).mpr (abs_pos.mpr hpos.ne')
  rwa [abs_of_pos hpos] at hlt

namespace Tableau

/-- **The tolerance blurs nothing in a tableau**: no entry is small, and limits on the
growth of a column that are close are equal. -/
structure Sharp (tolerance : Rat) (t : Tableau Rat) : Prop where
  /-- Entries within the tolerance are zero. -/
  entries : ∀ row ∈ t.rows, row.toEquation.Sharp tolerance
  /-- Ratios within the tolerance of each other are equal. -/
  ratios : ∀ j, ∀ row ∈ t.rows, ∀ other ∈ t.rows, 0 < row.coeff j → 0 < other.coeff j →
    |row.rhs / row.coeff j - other.rhs / other.coeff j| ≤ tolerance →
      row.rhs / row.coeff j = other.rhs / other.coeff j

variable {t t' s : Tableau Rat} {tolerance : Rat} {columns : Nat} {cell : Cell}
  {cells : List Cell}

theorem Sharp.congr (hrows : t.rows = t'.rows) (h : t.Sharp tolerance) :
    t'.Sharp tolerance :=
  ⟨hrows ▸ h.entries, hrows ▸ h.ratios⟩

/-- A choice between limits whose ratios are equal or further apart than the tolerance
does not depend on the tolerance. -/
theorem precedes_iff (h0 : 0 ≤ tolerance) {a b : Limit Rat}
    (h : |a.ratio - b.ratio| ≤ tolerance → a.ratio = b.ratio) :
    a.Precedes tolerance b ↔ a.Precedes 0 b := by
  unfold Limit.Precedes
  rw [add_zero, sub_zero]
  by_cases hclose : |a.ratio - b.ratio| ≤ tolerance
  · rw [h hclose]
    constructor
    · rintro (hlt | ⟨_, hbasic⟩)
      · linarith
      · exact .inr ⟨le_rfl, hbasic⟩
    · rintro (hlt | ⟨_, hbasic⟩)
      · exact absurd hlt (lt_irrefl _)
      · exact .inr ⟨by linarith, hbasic⟩
  · rcases lt_abs.mp (not_le.mp hclose) with hgt | hlt
    · constructor <;> rintro (h | ⟨h, _⟩) <;> linarith
    · exact ⟨fun _ => .inl (by linarith), fun _ => .inl (by linarith)⟩

/-- **A fold over limits does not depend on the tolerance** if no choice between two of
them does. -/
theorem foldl_choose_congr {limits : List (Limit Rat)}
    (h : ∀ a ∈ limits, ∀ b ∈ limits, (a.Precedes tolerance b ↔ a.Precedes 0 b)) :
    limits.foldl (Limit.choose tolerance) none = limits.foldl (Limit.choose 0) none := by
  -- what has been chosen so far is one of the limits
  have key : ∀ rest : List (Limit Rat), rest ⊆ limits → ∀ chosen ∈ limits,
      rest.foldl (Limit.choose tolerance) (some chosen)
        = rest.foldl (Limit.choose 0) (some chosen) := by
    intro rest
    induction rest with
    | nil => exact fun _ _ _ => rfl
    | cons a rest ih =>
      intro hrest chosen hchosen
      obtain ⟨ha, hrest⟩ := List.cons_subset.mp hrest
      rw [List.foldl_cons, List.foldl_cons]
      by_cases hp : chosen.Precedes 0 a
      · rw [Limit.choose, if_pos ((h chosen hchosen a ha).mpr hp),
          Limit.choose, if_pos hp]
        exact ih hrest chosen hchosen
      · rw [Limit.choose, if_neg fun hp' => hp ((h chosen hchosen a ha).mp hp'),
          Limit.choose, if_neg hp]
        exact ih hrest a ha
  cases limits with
  | nil => rfl
  | cons a limits =>
    exact key limits (List.subset_cons_self a limits) a List.mem_cons_self

/-- **In a sharp tableau the ratio test is exact.** -/
theorem Sharp.leaving?_eq (h : t.Sharp tolerance) (h0 : 0 ≤ tolerance) (column : Nat) :
    t.leaving? column tolerance = t.leaving? column 0 := by
  have hlimits : t.limits column tolerance = t.limits column 0 :=
    List.filterMap_congr fun ⟨row, index⟩ hmem => by
      have hrow := List.mem_of_getElem? (List.mk_mem_zipIdx_iff_getElem?.mp hmem)
      simp only [(h.entries row hrow).lt_iff h0]
  rw [leaving?, leaving?, hlimits, foldl_choose_congr]
  intro a ha b hb
  obtain ⟨row, hrow, hpos, ha⟩ := mem_limits_iff.mp ha
  obtain ⟨other, hother, hpos', hb⟩ := mem_limits_iff.mp hb
  refine precedes_iff h0 ?_
  rw [ha, hb]
  exact h.ratios column row (List.mem_of_getElem? hrow) other
    (List.mem_of_getElem? hother) hpos hpos'

/-- **In a sharp tableau eviction is exact.** -/
theorem Sharp.eviction?_eq (h : t.Sharp tolerance) (h0 : 0 ≤ tolerance) (i : Nat) :
    t.eviction? tolerance i = t.eviction? 0 i := by
  have hfind : ∀ row ∈ t.rows, (fun j => decide (tolerance < Scalar.abs (row.coeff j)))
      = fun j => decide (0 < Scalar.abs (row.coeff j)) := fun row hrow => by
    funext j
    rw [Scalar.abs_rational, decide_eq_decide]
    exact (h.entries row hrow).lt_abs_iff h0 j
  refine Option.ext fun cell => ?_
  rw [eviction?_eq_some_iff, eviction?_eq_some_iff]
  refine exists_congr fun row => and_congr_right fun hrow => ?_
  rw [hfind row (List.mem_of_getElem? hrow)]

/-- **With sharp prices the end of a phase is exact**: no column has a negative price. -/
theorem entering?_eq_none_of_sharp (h : t.price.Sharp tolerance)
    (hnone : t.entering? columns tolerance = none) : t.entering? columns 0 = none := by
  cases henter : t.entering? columns 0 with
  | none => rfl
  | some column =>
    obtain ⟨hlt, hlen, _⟩ := entering?_eq_some henter
    have hneg := price_neg_of_entering? le_rfl henter
    have hge := not_lt.mp (not_lt_of_entering?_eq_none hnone hlt hlen)
    exact absurd (h column (by rw [abs_of_neg hneg]; linarith)) hneg.ne

theorem Sharp.ratioStep (h : t.Sharp tolerance) (h0 : 0 ≤ tolerance)
    (hc : BlandStep columns tolerance t cell) : RatioStep columns t cell :=
  ⟨(entering?_eq_some hc.1).1, h.leaving?_eq h0 cell.column ▸ hc.2⟩

/-- A run of Bland's rule over sharp tableaux makes exact ratio tests. -/
theorem Follows.ratio_of_sharp (h0 : 0 ≤ tolerance)
    (hsharp : t.Throughout (Sharp tolerance) cells)
    (h : t.Follows (BlandStep columns tolerance) cells) :
    t.Follows (RatioStep columns) cells :=
  h.imp_of_throughout (fun _ _ hs hc => hs.ratioStep h0 hc) hsharp

/-- **Over sharp tableaux eviction makes the pivots of exact eviction.** -/
theorem evictFrom_eq_of_sharp (h0 : 0 ≤ tolerance) {rows : List Nat}
    (h : t.Throughout (Sharp tolerance) (evictFrom tolerance rows t).2) :
    evictFrom tolerance rows t = evictFrom 0 rows t := by
  induction rows generalizing t with
  | nil => rfl
  | cons row rows ih =>
    have hstep := h.first.eviction?_eq h0 row
    unfold evictFrom at h ⊢
    rw [← hstep]
    cases hcell : t.eviction? tolerance row with
    | none =>
      rw [hcell] at h
      exact ih h
    | some cell =>
      rw [hcell] at h
      simp only [ih h.2]

/-! ## Sharp runs -/

/-- **The tolerance blurs nothing in a run** but prices: all its tableaux are sharp, and
there is no shortfall if it is within the tolerance. -/
structure SharpRun (t : Tableau Rat) (o : Options Rat) : Prop where
  /-- The tableaux are sharp. -/
  tableaux : t.Throughout (Sharp o.tolerance) (t.optimize o).cells
  /-- There is no small shortfall. -/
  shortfall : -(t.repairPhase o).tableau.value ≤ o.tolerance →
    -(t.repairPhase o).tableau.value ≤ 0

/-- **What a verdict rests on** when prices are blurred: a tableau whose basic solution
is admissible if there is an optimum, and a ray that starts there if the objective is
unbounded. -/
def Grounded (t s : Tableau Rat) : Except (SolveError Rat) Unit → Prop
  | .ok () => t.ReadyFor s
  | .error (.unbounded column) => t.ReadyFor s ∧ column < s.firstArtificial ∧
      s.price.coeff column < 0 ∧ s.leaving? column 0 = none
  | .error (.infeasible _) => True
  | .error (.exhausted _) => True

/-- **The second phase grounds its verdict.** -/
theorem ReadyFor.grounded_maximize (hs : t.ReadyFor s) (h0 : 0 ≤ tolerance) (budget : Nat)
    (repair : List Cell) (evictions : Option (List Cell))
    (hsharp : s.Throughout (Sharp tolerance)
      (s.maximize tolerance budget repair evictions).ascent) :
    t.Grounded (s.maximize tolerance budget repair evictions).tableau
      (s.maximize tolerance budget repair evictions).verdict := by
  have hphase := isAscent_ascend s.firstArtificial tolerance budget s
  obtain ⟨hready, heq⟩ := hs.1.pivots (hphase.follows.ratio_of_sharp h0 hsharp)
  have hlast := hsharp.last
  show t.Grounded (s.ascend s.firstArtificial tolerance budget).tableau
    ((s.ascend s.firstArtificial tolerance budget).stop.verdict budget)
  cases hstop : (s.ascend s.firstArtificial tolerance budget).stop with
  | optimal =>
    rw [hphase.tableau_eq]
    exact ⟨hready, hs.2.trans heq⟩
  | unbounded column =>
    obtain ⟨henter, hleave⟩ := hphase.unbounded column hstop
    rw [hphase.tableau_eq] at henter hleave ⊢
    refine ⟨⟨hready, hs.2.trans heq⟩, ?_, price_neg_of_entering? h0 henter,
      hlast.leaving?_eq h0 column ▸ hleave⟩
    rw [firstArtificial_pivots]
    exact (entering?_eq_some henter).1
  | exhausted => trivial

/-- The first phase of a sharp run keeps the right-hand sides non-negative. -/
theorem repairPhase_nonneg_of_sharp {o : Options Rat} (ht : t.Canonical) (hn : t.Nonneg)
    (h0 : 0 ≤ o.tolerance)
    (hsharp : t.Throughout (Sharp o.tolerance) (t.repairPhase o).cells) :
    (t.repairPhase o).tableau.Nonneg := by
  have hphase := isAscent_repairPhase t o
  have hrows : t.rows = t.withShortfall.rows := rfl
  rw [hphase.tableau_eq]
  exact (hphase.follows.ratio_of_sharp h0 (hsharp.congr Sharp.congr hrows)).nonneg
    ht.withShortfall hn

/-- The first phase of a sharp run is never unbounded. -/
theorem repairPhase_stop_ne_unbounded_of_sharp {o : Options Rat} (ht : t.Canonical)
    (hn : t.Nonneg) (h0 : 0 ≤ o.tolerance)
    (hsharp : t.Throughout (Sharp o.tolerance) (t.repairPhase o).cells)
    (column : Nat) : (t.repairPhase o).stop ≠ .unbounded column := by
  intro hstop
  obtain ⟨hcan, he⟩ := canonical_repairPhase ht h0
  obtain ⟨henter, hleave⟩ := (isAscent_repairPhase t o).unbounded column hstop
  have hlast : (t.repairPhase o).tableau.Sharp o.tolerance :=
    hsharp.last.congr (rows_repairPhase t o)
  exact he.leaving?_ne_none ht hcan (repairPhase_nonneg_of_sharp ht hn h0 hsharp)
    (price_neg_of_entering? h0 henter) (hlast.leaving?_eq h0 column ▸ hleave)

/-- **The second phase of a sharp run starts from a ready tableau.** -/
theorem readyFor_repaired {o : Options Rat} (ht : t.Fit) (h0 : 0 ≤ o.tolerance)
    (hrepair : t.Throughout (Sharp o.tolerance) (t.repairPhase o).cells)
    (hevict : (t.pivots (t.repairPhase o).cells).Throughout (Sharp o.tolerance)
      (t.repaired o).2)
    (hshort : -(t.repairPhase o).tableau.value ≤ 0) : t.ReadyFor (t.repaired o).1 := by
  obtain ⟨hcan, heq⟩ :=
    (follows_repairPhase h0 : t.Follows Pivotal (t.repairPhase o).cells).canonical
      ht.toCanonical
  have hnonneg := repairPhase_nonneg_of_sharp ht.toCanonical ht.nonneg h0 hrepair
  have hsettled := settled_repairPhase ht.toCanonical h0 hnonneg hshort
  obtain ⟨hready, heq'⟩ := hsettled.ready_evict hcan
    (fun row hrow => hnonneg row (rows_repairPhase t o ▸ hrow)) (heq.free ht.free)
  have hexact : (t.repaired o).1 = ((t.pivots (t.repairPhase o).cells).evict 0).1 :=
    congrArg Prod.fst (evictFrom_eq_of_sharp h0 hevict)
  rw [hexact]
  exact ⟨hready, heq.trans heq'⟩

/-- **A sharp run grounds its verdict.** -/
theorem SharpRun.grounded {o : Options Rat} (h : t.SharpRun o) (ht : t.Fit)
    (h0 : 0 ≤ o.tolerance) :
    t.Grounded (t.optimize o).tableau (t.optimize o).verdict := by
  obtain ⟨hsharp, hshortfall⟩ := h
  refine optimize_cases (motive := fun m => t.Throughout (Sharp o.tolerance) m.cells →
    t.Grounded m.tableau m.verdict) t o (fun hzero hsharp => ?_) (fun _ e he hsharp => ?_)
    (fun _ _ _ _ => trivial) (fun _ _ hshort hsharp => ?_) hsharp
  · exact ReadyFor.grounded_maximize
      ⟨ht.toCanonical.ready ht.nonneg hzero, Equivalent.refl t⟩ h0 _ _ _ hsharp
  · have hrepair : t.Throughout (Sharp o.tolerance) (t.repairPhase o).cells := by
      simpa [Optimization.cells] using hsharp
    cases hstop : (t.repairPhase o).stop with
    | optimal => rw [hstop] at he; cases he
    | unbounded column =>
      exact absurd hstop
        (repairPhase_stop_ne_unbounded_of_sharp ht.toCanonical ht.nonneg h0 hrepair
          column)
    | exhausted =>
      rw [hstop] at he
      cases he
      trivial
  · rw [Optimization.cells, throughout_append, throughout_append] at hsharp
    obtain ⟨⟨hrepair, hevict⟩, hascent⟩ := hsharp
    have hready := readyFor_repaired ht h0 hrepair hevict (hshortfall hshort)
    change (t.pivots ((t.repairPhase o).cells ++ (t.repaired o).2)).Throughout _ _
      at hascent
    rw [← repaired_fst] at hascent
    exact hready.grounded_maximize h0 _ _ _ hascent

end Tableau

end LatticeLP

import LatticeLP.Tableau.Optimum
import LatticeLP.Proofs.Tableau.Reachable

/-!
# The truth of verdicts

What a verdict reached with the tolerance at zero says about the program. Each verdict
rests on something that can be read off the tableau at the end (`Justified`): no column
enters, or a column enters and nothing leaves, or the least shortfall is positive. The
first is a certificate of optimality, because the price row prices every admissible
valuation at most at its right-hand side. The second is a ray along which the objective
grows (`exists_denseFeasible_gt`), and the third leaves no admissible valuation.

The budget plays no part in any of this: an optimization that was cut short has a
verdict of its own.
-/

namespace LatticeLP

namespace Tableau

variable {t s : Tableau Rat}

/-! ## What a verdict rests on -/

/-- The tableau is ready, and it says what another one says. -/
def ReadyFor (t s : Tableau Rat) : Prop :=
  s.Ready ∧ t.Equivalent s

/-- **A verdict is justified** by the tableau `s` at the end of an optimization: by
prices without a negative one if there is an optimum, by the absence of admissible
valuations if there is no feasible point, and by a column that nothing limits if the
objective is unbounded. -/
def Justified (t s : Tableau Rat) : Except (SolveError Rat) Unit → Prop
  | .ok () => t.ReadyFor s ∧ s.entering? s.firstArtificial 0 = none
  | .error (.infeasible _) => ∀ v, ¬ t.Admits v
  | .error (.unbounded column) =>
    t.ReadyFor s ∧ s.entering? s.firstArtificial 0 = some column ∧
      s.leaving? column 0 = none
  | .error (.exhausted _) => True

/-- **The second phase justifies its verdict.** -/
theorem ReadyFor.justified_maximize (hs : t.ReadyFor s) (budget : Nat)
    (repair : List Cell) (evictions : Option (List Cell)) :
    t.Justified (s.maximize 0 budget repair evictions).tableau
      (s.maximize 0 budget repair evictions).verdict := by
  have hphase := isAscent_ascend s.firstArtificial 0 budget s
  have hready : t.ReadyFor (s.ascend s.firstArtificial 0 budget).tableau := by
    rw [hphase.tableau_eq]
    obtain ⟨hready, heq⟩ := hs.1.pivots hphase.follows.ratio_of_bland
    exact ⟨hready, hs.2.trans heq⟩
  have hcolumns : (s.ascend s.firstArtificial 0 budget).tableau.firstArtificial
      = s.firstArtificial := by
    rw [hphase.tableau_eq, firstArtificial_pivots]
  show t.Justified (s.ascend s.firstArtificial 0 budget).tableau
    ((s.ascend s.firstArtificial 0 budget).stop.verdict budget)
  cases hstop : (s.ascend s.firstArtificial 0 budget).stop with
  | optimal => exact ⟨hready, hcolumns.symm ▸ hphase.optimal hstop⟩
  | unbounded column =>
    obtain ⟨henter, hleave⟩ := hphase.unbounded column hstop
    exact ⟨hready, hcolumns.symm ▸ henter, hleave⟩
  | exhausted => trivial

/-- **Exact optimization of a fit tableau justifies its verdict.** -/
theorem Fit.justified_optimize (ht : t.Fit) (budget : Nat) :
    t.Justified (t.optimize ⟨0, budget⟩).tableau (t.optimize ⟨0, budget⟩).verdict := by
  refine optimize_cases t ⟨0, budget⟩ (fun h => ?_) (fun _ e he => ?_)
    (fun _ hstop hshort => ?_)
    (fun _ _ hshort => ?_)
  · exact ReadyFor.justified_maximize
      ⟨ht.toCanonical.ready ht.nonneg h, Equivalent.refl t⟩ budget [] none
  · cases hstop : (t.repairPhase ⟨0, budget⟩).stop with
    | optimal => rw [hstop] at he; cases he
    | unbounded column =>
      exact absurd hstop
        (repairPhase_stop_ne_unbounded ht.toCanonical ht.nonneg budget column)
    | exhausted =>
      rw [hstop] at he
      cases he
      trivial
  · exact (canonical_repairPhase ht.toCanonical le_rfl).2.not_admits ht.toCanonical
      ((isAscent_repairPhase t ⟨0, budget⟩).optimal hstop) hshort
  · exact ReadyFor.justified_maximize
      (ready_repaired ht.toCanonical ht.nonneg ht.free hshort) _ _ _

/-- **Where no column enters, no admissible valuation does better** than the basic
solution. -/
theorem ReadyFor.residual_le_value (hs : t.ReadyFor s)
    (h : s.entering? s.firstArtificial 0 = none) {v : Nat → Rat} (hv : t.Admits v) :
    t.price.residual v ≤ s.value := by
  have hv' := (hs.2.admits_iff v).mpr hv
  rw [← hs.2.objective v hv.solves]
  exact Tableau.residual_le_value h hv'.nonneg hv'.clear

/-- **Where a column may enter and nothing leaves, its edge consists of admissible
valuations.** -/
theorem Ready.admits_along (hs : s.Ready) {column : Nat}
    (hlt : column < s.firstArtificial)
    (hc : column ∉ s.basics) (hleave : s.leaving? column 0 = none) {y : Rat}
    (hy : 0 ≤ y) :
    s.Admits (s.along column y) where
  solves := hs.toCanonical.solves_along column y
  nonneg := hs.toCanonical.along_nonneg hs.nonneg hc hleave hy
  clear j hj := by
    rw [along_of_notMem fun hmem => absurd (hs.clear j hmem) (not_lt.mpr hj)]
    exact if_neg (hlt.trans_le hj).ne'

/-! ## Programs in dense form -/

section Dense

variable {objective bounds : List Rat} {matrix : List (List Rat)} {budget : Nat}
  (shape : ofDense? objective matrix bounds = .ok t)

include shape

/-- The basic solution of a ready tableau is a feasible point, and the value is the
objective there. -/
theorem ReadyFor.denseFeasible (hs : t.ReadyFor s) :
    DenseFeasible objective.length matrix bounds s.solution ∧
      s.value = dot objective s.solution := by
  have hadmits := (hs.2.admits_iff _).mp hs.1.admits_valueAt
  obtain ⟨hfeas, hdot⟩ := denseFeasible_of_admits shape hadmits
  rw [← hs.2.decisions] at hfeas hdot
  refine ⟨hfeas, ?_⟩
  rw [solution, hdot, ← hs.2.objective _ hadmits.solves,
    hs.1.toCanonical.residual_price_valueAt]

/-- **A program with an optimum** is maximised at the solution of its last tableau. -/
theorem isOptimum_of_verdict (h : (t.optimize ⟨0, budget⟩).verdict = .ok ()) :
    DenseFeasible objective.length matrix bounds
      (t.optimize ⟨0, budget⟩).tableau.solution ∧
      (t.optimize ⟨0, budget⟩).tableau.value
        = dot objective (t.optimize ⟨0, budget⟩).tableau.solution ∧
      ∀ y, DenseFeasible objective.length matrix bounds y →
        dot objective y ≤ (t.optimize ⟨0, budget⟩).tableau.value := by
  have hjust := (fit_of_ofDense? shape).justified_optimize budget
  rw [h] at hjust
  obtain ⟨hready, henter⟩ := hjust
  obtain ⟨hfeas, hvalue⟩ := hready.denseFeasible shape
  refine ⟨hfeas, hvalue, fun y hy => ?_⟩
  obtain ⟨v, hv, _, hdot⟩ := exists_admits_of_denseFeasible shape hy
  exact hdot ▸ hready.residual_le_value henter hv

/-- **Along a column that nothing limits the objective exceeds every bound**, if its
price is negative. -/
theorem ReadyFor.exists_denseFeasible_gt (hs : t.ReadyFor s) {column : Nat}
    (hlt : column < s.firstArtificial) (hprice : s.price.coeff column < 0)
    (hleave : s.leaving? column 0 = none) (bound : Rat) :
    ∃ x, DenseFeasible objective.length matrix bounds x ∧ bound < dot objective x := by
  obtain ⟨y, hy, hgt⟩ := exists_along_gt hprice s.value bound
  have hadmits := (hs.2.admits_iff _).mp (hs.1.admits_along hlt
    (hs.1.toCanonical.notMem_basics_of_price hprice.ne) hleave hy)
  obtain ⟨hfeas, hdot⟩ := denseFeasible_of_admits shape hadmits
  refine ⟨_, hfeas, ?_⟩
  rwa [hdot, ← hs.2.objective _ hadmits.solves, hs.1.toCanonical.residual_price_along]

/-- **Failures tell the truth**: a program said to be infeasible has no feasible point,
one said to be unbounded has feasible points with any objective value, and the first
phase says the latter of no program. -/
theorem error_truthful (budget : Nat) :
    (∀ shortfall, (t.optimize ⟨0, budget⟩).verdict = .error (.infeasible shortfall) →
      ¬ ∃ x, DenseFeasible objective.length matrix bounds x) ∧
    (∀ column, (t.optimize ⟨0, budget⟩).verdict = .error (.unbounded column) →
      (∃ x, DenseFeasible objective.length matrix bounds x) ∧
        ∀ bound, ∃ x,
          DenseFeasible objective.length matrix bounds x ∧ bound < dot objective x) ∧
    ∀ column, (t.withShortfall.ascend (t.firstArtificial + t.artificials) 0 budget).stop
      ≠ .unbounded column := by
  have hfit := fit_of_ofDense? shape
  have hjust := hfit.justified_optimize budget
  refine ⟨fun shortfall h => ?_, fun column h => ?_, ?_⟩
  · rw [h] at hjust
    rintro ⟨x, hx⟩
    obtain ⟨v, hv, _⟩ := exists_admits_of_denseFeasible shape hx
    exact hjust v hv
  · rw [h] at hjust
    obtain ⟨hready, henter, hleave⟩ := hjust
    exact ⟨⟨_, (hready.denseFeasible shape).1⟩, hready.exists_denseFeasible_gt shape
      (entering?_eq_some henter).1 (price_neg_of_entering? le_rfl henter) hleave⟩
  · exact repairPhase_stop_ne_unbounded hfit.toCanonical hfit.nonneg budget

end Dense

/-- Two bounds that contradict each other, and one bound on the wrong side. -/
theorem error_truthful_contradictory_and_open :
    (¬ ∃ x, DenseFeasible 1 [[1], [-1]] [1, -2] x) ∧
      ∀ bound, ∃ x, DenseFeasible 2 [[-1, 0]] [-1] x ∧ bound < dot [1, 1] x := by
  have hinfeasible : ((start [1] [⟨[1], 1⟩, ⟨[-1], (-2 : Rat)⟩]).optimize ⟨0, 5⟩).verdict
    = .error (.infeasible 1) := by decide +kernel
  have hunbounded : ((start [1, 1] [⟨[-1, 0], (-1 : Rat)⟩]).optimize ⟨0, 5⟩).verdict
    = .error (.unbounded 1) := by decide +kernel
  have contradictory : ofDense? [1] [[1], [-1]] [1, -2]
    = .ok (start [1] [⟨[1], 1⟩, ⟨[-1], (-2 : Rat)⟩]) := rfl
  have unlimited : ofDense? [1, 1] [[-1, 0]] [-1]
    = .ok (start [1, 1] [⟨[-1, 0], (-1 : Rat)⟩]) := rfl
  exact ⟨(error_truthful contradictory 5).1 _ hinfeasible,
    ((error_truthful unlimited 5).2.1 _ hunbounded).2⟩

end Tableau

/-! ## Planar programs -/

namespace Program

variable (p : Program Rat)

/-- The tableau of a planar program is that of its dense form. -/
theorem ofDense?_tableau :
    Tableau.ofDense? p.coefficients p.matrix p.bounds = .ok p.tableau := by
  refine Tableau.ofDense?_eq_ok_iff.mpr ⟨by simp [matrix, bounds], fun row hrow => ?_, ?_⟩
  · obtain ⟨c, _, rfl⟩ := List.mem_map.mp hrow
    rfl
  · rw [tableau, matrix, bounds, List.zipWith_map, List.zipWith_self]

theorem dot_coefficients (q : Point Rat) : dot p.coefficients [q.x, q.y] = p.value q := by
  simp [dot, coefficients, value, LinearForm.value]

/-- **The feasible points of a planar program are those of its dense form.** -/
theorem feasible_iff_denseFeasible (q : Point Rat) :
    p.Feasible q ↔ DenseFeasible p.coefficients.length p.matrix p.bounds [q.x, q.y] := by
  rw [Tableau.denseFeasible_iff (by simp [matrix, bounds]), matrix, bounds,
    List.zipWith_map,
    List.zipWith_self]
  simp [Feasible, Region.Feasible, Point.isFinite, coefficients, constraints,
    Constraint.Holds, LinearForm.value, dot, and_assoc]

variable {p} {o : Options Rat} {opt : Optimum Rat}

theorem optimum?_eq_ok_iff :
    p.optimum? o = .ok opt ↔ (p.tableau.optimize o).verdict = .ok () ∧
    opt = ⟨⟨(p.tableau.optimize o).tableau.valueAt 0,
      (p.tableau.optimize o).tableau.valueAt 1⟩,
      (p.tableau.optimize o).tableau.value, (p.tableau.optimize o).pivots⟩ := by
  unfold optimum? Optimization.optimum?
  cases (p.tableau.optimize o).verdict with
  | error e => simp [Except.map]
  | ok _ => simp [Except.map, eq_comm]

theorem optimum?_eq_error_iff {e : SolveError Rat} :
    p.optimum? o = .error e ↔ (p.tableau.optimize o).verdict = .error e := by
  unfold optimum? Optimization.optimum?
  cases (p.tableau.optimize o).verdict <;> simp [Except.map]

/-- The solution of a tableau of a planar program is a point. -/
theorem solution_optimize (p : Program Rat) (o : Options Rat) :
    (p.tableau.optimize o).tableau.solution = [(p.tableau.optimize o).tableau.valueAt 0,
      (p.tableau.optimize o).tableau.valueAt 1] := by
  rw [Tableau.solution, Tableau.tableau_optimize, Tableau.decisions_pivots]
  rfl

/-- **The optimum of a planar program is a feasible point that maximises the
objective.** -/
theorem isMaximiser_of_optimum? (p : Program Rat) {budget : Nat} {opt : Optimum Rat}
    (h : p.optimum? ⟨0, budget⟩ = .ok opt) :
    p.Feasible opt.point ∧ opt.value = p.value opt.point ∧
      ∀ q, p.Feasible q → p.value q ≤ opt.value := by
  obtain ⟨hverdict, rfl⟩ := optimum?_eq_ok_iff.mp h
  obtain ⟨hfeas, hvalue, hmax⟩ := Tableau.isOptimum_of_verdict p.ofDense?_tableau hverdict
  rw [solution_optimize] at hfeas hvalue
  refine ⟨(p.feasible_iff_denseFeasible _).mpr hfeas,
    hvalue.trans (p.dot_coefficients ⟨_, _⟩), fun q hq => ?_⟩
  rw [← dot_coefficients]
  exact hmax _ ((p.feasible_iff_denseFeasible q).mp hq)

end Program

/-- **The simplex method is sound** with the tolerance at zero: when it reports success,
the solution it leaves is a feasible point, its value is the objective there, and no
feasible point has a greater one. For a planar program this makes the reported optimum a
feasible maximiser. -/
theorem optimize_sound (budget : Nat) :
    (∀ (objective bounds : List Rat) (matrix : List (List Rat)) (t : Tableau Rat),
      Tableau.ofDense? objective matrix bounds = .ok t →
      (t.optimize ⟨0, budget⟩).verdict = .ok () →
      DenseFeasible objective.length matrix bounds
        (t.optimize ⟨0, budget⟩).tableau.solution ∧
        (t.optimize ⟨0, budget⟩).tableau.value
          = dot objective (t.optimize ⟨0, budget⟩).tableau.solution ∧
        ∀ y, DenseFeasible objective.length matrix bounds y →
          dot objective y ≤ (t.optimize ⟨0, budget⟩).tableau.value) ∧
    ∀ (p : Program Rat) (opt : Optimum Rat), p.optimum? ⟨0, budget⟩ = .ok opt →
      p.Feasible opt.point ∧ opt.value = p.value opt.point ∧
        ∀ q, p.Feasible q → p.value q ≤ opt.value :=
  ⟨fun _ _ _ _ shape h => Tableau.isOptimum_of_verdict shape h,
    fun p _ h => p.isMaximiser_of_optimum? h⟩

/-- One program of each kind; both need a first phase. -/
theorem optimize_sound_repaired :
    (∃ t : Tableau Rat,
      Tableau.ofDense? [1, 1, 0] [[1, 2, 1], [-1, 0, 0], [1, 0, 0]] [4, -1, 1]
        = .ok t ∧ (t.optimize ⟨0, 10⟩).verdict = .ok () ∧
      ∀ y, DenseFeasible 3 [[1, 2, 1], [-1, 0, 0], [1, 0, 0]] [4, -1, 1] y →
        dot [1, 1, 0] y ≤ (t.optimize ⟨0, 10⟩).tableau.value) ∧
    ∃ p : Program Rat, p.Feasible ⟨4, 0⟩ ∧ ∀ q, p.Feasible q → p.value q ≤ 4 := by
  have shape : Tableau.ofDense? [1, 1, 0] [[1, 2, 1], [-1, 0, 0], [1, 0, 0]] [4, -1, 1]
    = .ok (Tableau.start [1, 1, 0]
      [⟨[1, 2, 1], 4⟩, ⟨[-1, 0, 0], -1⟩, ⟨[1, 0, 0], (1 : Rat)⟩]) := rfl
  refine ⟨?_, ⟨⟨1, 1⟩, ⟨[⟨⟨1, 2⟩, 4⟩, ⟨⟨-1, 0⟩, -1⟩]⟩⟩, ?_⟩
  · have hok : ((Tableau.start [1, 1, 0] [⟨[1, 2, 1], 4⟩, ⟨[-1, 0, 0], -1⟩,
        ⟨[1, 0, 0], (1 : Rat)⟩]).optimize ⟨0, 10⟩).verdict = .ok () := by decide +kernel
    exact ⟨_, shape, hok, ((optimize_sound 10).1 _ _ _ _ shape hok).2.2⟩
  · have hok : (⟨⟨1, 1⟩, ⟨[⟨⟨1, 2⟩, 4⟩, ⟨⟨-1, 0⟩, -1⟩]⟩⟩ : Program Rat).optimum? ⟨0, 10⟩
        = .ok ⟨⟨4, 0⟩, 4, 3⟩ := by decide +kernel
    have h := (optimize_sound 10).2 _ _ hok
    exact ⟨h.1, h.2.2⟩

end LatticeLP

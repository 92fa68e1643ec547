import LatticeLP.Proofs.Tableau.Grid

/-!
# Verdicts under the standard limits

The standard tolerance is `1e-9`, and numbers are not scaled before they are compared
with it. Verdicts are therefore right for numbers of ordinary magnitude and need not be
for others. The optimum of `nearTie` misses a constraint by half a thousandth, because
the ratios of its two bounds differ by less than the tolerance. `faintBound` is called
unbounded although it has a bound, with the coefficient `1e-10`; and `faintDemand` is
called infeasible, because a point has to go as far as `1e10` to meet its demand.

Three things hold all the same. The optimum of a sharp run is a feasible point
(`optimum?_standard_feasible`), and a sharp run that ends along a column ends on a ray
of feasible points. A shortfall that is reported is not made up by points nearby, since
no unit of a coordinate or a slack makes up for more than the tolerance
(`shortfall_le_of_feasible`). And programs on a grid have sharp runs, whatever their
bounds and objectives are, if the coefficients are not too large – integers up to `125`,
say – so that their verdicts are true as they are with the tolerance at zero
(`error_standard_truthful`).
-/

namespace LatticeLP

namespace Program

variable {p : Program Rat} {o : Options Rat} {opt : Optimum Rat} {q : Point Rat}

/-! ## Verdicts of planar programs -/

/-- **The optimum of a sharp run is a feasible point.** -/
theorem feasible_of_sharpRun (h0 : 0 ≤ o.tolerance) (hsharp : p.tableau.SharpRun o)
    (h : p.optimum? o = .ok opt) : p.Feasible opt.point := by
  obtain ⟨hverdict, rfl⟩ := optimum?_eq_ok_iff.mp h
  have hgrounded := hsharp.grounded (Tableau.fit_of_ofDense? p.ofDense?_tableau) h0
  rw [hverdict] at hgrounded
  have hfeasible := (Tableau.ReadyFor.denseFeasible p.ofDense?_tableau hgrounded).1
  rw [solution_optimize] at hfeasible
  exact (p.feasible_iff_denseFeasible ⟨_, _⟩).mpr hfeasible

/-- A point of the dense form is a point of the plane. -/
theorem exists_feasible_of_denseFeasible {x : List Rat}
    (hx : DenseFeasible p.coefficients.length p.matrix p.bounds x) :
    ∃ q, p.Feasible q ∧ p.value q = dot p.coefficients x := by
  obtain ⟨a, b, rfl⟩ := List.length_eq_two.mp hx.length
  exact ⟨⟨a, b⟩, (p.feasible_iff_denseFeasible ⟨a, b⟩).mpr hx,
    (p.dot_coefficients ⟨a, b⟩).symm⟩

/-- **Where a sharp run ends along a column, the objective exceeds every bound.** -/
theorem exists_gt_of_sharpRun (h0 : 0 ≤ o.tolerance) (hsharp : p.tableau.SharpRun o)
    {column : Nat} (h : p.optimum? o = .error (.unbounded column)) (bound : Rat) :
    ∃ q, p.Feasible q ∧ bound < p.value q := by
  have hgrounded := hsharp.grounded (Tableau.fit_of_ofDense? p.ofDense?_tableau) h0
  rw [optimum?_eq_error_iff.mp h] at hgrounded
  obtain ⟨hready, hlt, hprice, hleave⟩ := hgrounded
  obtain ⟨x, hx, hgt⟩ :=
    hready.exists_denseFeasible_gt p.ofDense?_tableau hlt hprice hleave bound
  obtain ⟨q, hq, hvalue⟩ := exists_feasible_of_denseFeasible hx
  exact ⟨q, hq, hvalue ▸ hgt⟩

/-- A feasible point as an admissible valuation: its coordinates, and its slacks. -/
theorem exists_admits_of_feasible (hq : p.Feasible q) : ∃ v, p.tableau.Admits v ∧
    ∑ j ∈ Finset.range p.tableau.firstArtificial, v j
      = q.x + q.y + (p.constraints.map (·.slack q)).sum := by
  obtain ⟨v, hv, hpoint, _⟩ := Tableau.exists_admits_of_denseFeasible p.ofDense?_tableau
    ((p.feasible_iff_denseFeasible q).mp hq)
  have hx : v 0 = q.x := hpoint 0 Nat.zero_lt_two
  have hy : v 1 = q.y := hpoint 1 Nat.one_lt_two
  have hcolumns : p.tableau.firstArtificial = 2 + p.constraints.length := by
    rw [show p.tableau = Tableau.start p.coefficients p.system from rfl,
      Tableau.firstArtificial_start, length_system]
    rfl
  have hslack : ∀ i c, p.constraints[i]? = some c → v (2 + i) = c.slack q :=
    fun i c hc => by
      rw [solves_tableau_iff.mp hv.solves i c hc, hx, hy,
        hv.clear _ (hcolumns ▸ p.le_artificial i), ite_self, add_zero]
  refine ⟨v, hv, ?_⟩
  rw [hcolumns, Finset.sum_range_add, Finset.sum_range_succ, Finset.sum_range_one, hx, hy,
    Finset.sum_range, ← Fin.sum_univ_fun_getElem]
  exact congrArg _
    (Finset.sum_congr rfl fun i _ => hslack i _ (List.getElem?_eq_getElem i.isLt))

/-- **A shortfall is not made up nearby**: it exceeds the tolerance, and a feasible
point makes up for the tolerance at most with each unit of its coordinates and
slacks. -/
theorem shortfall_le_of_feasible (h0 : 0 ≤ o.tolerance) {shortfall : Rat}
    (h : p.optimum? o = .error (.infeasible shortfall)) :
    o.tolerance < shortfall ∧ ∀ q, p.Feasible q →
      shortfall ≤ o.tolerance * (q.x + q.y + (p.constraints.map (·.slack q)).sum) := by
  have hfit := Tableau.fit_of_ofDense? p.ofDense?_tableau
  obtain ⟨hstop, rfl, hlt⟩ := Tableau.shortfall_of_verdict (optimum?_eq_error_iff.mp h)
  refine ⟨not_le.mp hlt, fun q hq => ?_⟩
  obtain ⟨v, hv, hsum⟩ := exists_admits_of_feasible hq
  have hle :=
    (Tableau.canonical_repairPhase hfit.toCanonical h0).2.shortfall_le hfit.toCanonical h0
      ((Tableau.isAscent_repairPhase p.tableau o).optimal hstop) hv
  rwa [hsum] at hle

/-- Where the prices of the shortfall are not blurred either, there is no feasible
point. -/
theorem not_feasible_of_sharp (h0 : 0 ≤ o.tolerance)
    (hsharp : (p.tableau.repairPhase o).tableau.price.Sharp o.tolerance) {shortfall : Rat}
    (h : p.optimum? o = .error (.infeasible shortfall)) : ¬ ∃ q, p.Feasible q := by
  have hfit := Tableau.fit_of_ofDense? p.ofDense?_tableau
  obtain ⟨hstop, rfl, hlt⟩ := Tableau.shortfall_of_verdict (optimum?_eq_error_iff.mp h)
  rintro ⟨q, hq⟩
  obtain ⟨v, hv, _⟩ := exists_admits_of_feasible hq
  have henter := Tableau.entering?_eq_none_of_sharp hsharp
    ((Tableau.isAscent_repairPhase p.tableau o).optimal hstop)
  exact (Tableau.canonical_repairPhase hfit.toCanonical h0).2.not_admits
    hfit.toCanonical henter
    (fun hle => hlt (hle.trans h0)) v hv

/-! ## The standard tolerance -/

theorem standard_tolerance : (Options.standard : Options Rat).tolerance = 1 / 10 ^ 9 := by
  norm_num [Options.standard]

theorem standard_tolerance_nonneg : 0 ≤ (Options.standard : Options Rat).tolerance := by
  rw [standard_tolerance]
  positivity

/-- **The standard tolerance blurs nothing on a coarse grid.** -/
theorem OnGrid.sharpRun_standard {d m : Nat} (grid : p.OnGrid d m)
    (hsmall : (2 * d * m ^ 2) ^ 2 < 10 ^ 9) : p.tableau.SharpRun .standard ∧
      (p.tableau.repairPhase .standard).tableau.price.Sharp
        (Options.standard : Options Rat).tolerance := by
  refine grid.sharpRun standard_tolerance_nonneg ?_
  have hsmall' : ((2 * d * m ^ 2 : Nat) : Rat) ^ 2 < 10 ^ 9 := by exact_mod_cast hsmall
  rw [standard_tolerance, mul_one_div, div_lt_one (by positivity)]
  exact hsmall'

/-- **An optimum under the standard limits is a feasible point, if the run is sharp**;
and programs on a grid have sharp runs. -/
theorem optimum?_standard_feasible :
    (∀ (p : Program Rat) (opt : Optimum Rat), p.tableau.SharpRun .standard →
      p.optimum? .standard = .ok opt → p.Feasible opt.point) ∧
    ∀ (p : Program Rat) (d m : Nat), p.OnGrid d m → (2 * d * m ^ 2) ^ 2 < 10 ^ 9 →
      p.tableau.SharpRun .standard :=
  ⟨fun _ _ hsharp h => feasible_of_sharpRun standard_tolerance_nonneg hsharp h,
    fun _ _ _ grid hsmall => (grid.sharpRun_standard hsmall).1⟩

/-- The sample program under the standard limits. -/
theorem optimum?_standard_feasible_sample :
    (sample : Program Rat).tableau.SharpRun .standard ∧
    (sample : Program Rat).optimum? .standard = .ok ⟨⟨30 / 13, 42 / 13⟩, 636 / 13, 2⟩ ∧
    (sample : Program Rat).Feasible ⟨30 / 13, 42 / 13⟩ := by
  have hsharp := optimum?_standard_feasible.2 sample 1 5 (by decide +kernel) (by decide)
  have hopt : (sample : Program Rat).optimum? .standard
      = .ok ⟨⟨30 / 13, 42 / 13⟩, 636 / 13, 2⟩ := by
    decide +kernel
  exact ⟨hsharp, hopt, optimum?_standard_feasible.1 sample _ hsharp hopt⟩

/-- Two bounds on one coordinate whose ratios differ by `5e-10`. The tie goes to the
first one, and the second one, which is tighter, has large numbers. -/
def nearTie : Program Rat :=
  ⟨⟨1, 0⟩, ⟨[⟨⟨1, 0⟩, 1⟩, ⟨⟨10 ^ 6, 0⟩, 9999999995 / 10 ^ 4⟩]⟩⟩

/-- **An optimum under the standard limits may miss a constraint** by more than the
tolerance. -/
theorem exists_slack_lt_nearTie : ∃ opt, nearTie.optimum? .standard = .ok opt ∧
    ∃ c ∈ nearTie.constraints, c.slack opt.point < -(1 / 10 ^ 9) := by
  refine ⟨⟨⟨1, 0⟩, 1, 1⟩, by decide +kernel, ⟨⟨10 ^ 6, 0⟩, 9999999995 / 10 ^ 4⟩, ?_, ?_⟩
  · exact List.mem_cons_of_mem _ List.mem_cons_self
  · decide +kernel

/-- **What failures under the standard limits say.** A shortfall that is reported
exceeds the tolerance, and the coordinates and slacks of a feasible point add up to the
shortfall divided by the tolerance at least; if the last prices of the shortfall are
sharp, there is no feasible point. An objective said to be unbounded is so if the run is
sharp. On a grid both are sharp. -/
theorem error_standard_truthful :
    (∀ (p : Program Rat) (shortfall : Rat),
      p.optimum? .standard = .error (.infeasible shortfall) →
      1 / 10 ^ 9 < shortfall ∧
      (∀ q, p.Feasible q →
        shortfall ≤ 1 / 10 ^ 9 * (q.x + q.y + (p.constraints.map (·.slack q)).sum)) ∧
      ((p.tableau.repairPhase .standard).tableau.price.Sharp (1 / 10 ^ 9) → ¬ ∃ q,
        p.Feasible q)) ∧
    (∀ (p : Program Rat) (column : Nat),
      p.optimum? .standard = .error (.unbounded column) →
      p.tableau.SharpRun .standard → ∀ bound, ∃ q, p.Feasible q ∧ bound < p.value q) ∧
    ∀ (p : Program Rat) (d m : Nat), p.OnGrid d m → (2 * d * m ^ 2) ^ 2 < 10 ^ 9 →
      p.tableau.SharpRun .standard ∧
        (p.tableau.repairPhase .standard).tableau.price.Sharp (1 / 10 ^ 9) := by
  rw [← standard_tolerance]
  refine ⟨fun p shortfall h => ?_, fun p column h hsharp => ?_,
    fun p d m grid hsmall => ?_⟩
  · obtain ⟨hlt, hle⟩ := shortfall_le_of_feasible standard_tolerance_nonneg h
    exact ⟨hlt, hle,
      fun hsharp => not_feasible_of_sharp standard_tolerance_nonneg hsharp h⟩
  · exact exists_gt_of_sharpRun standard_tolerance_nonneg hsharp h
  · exact grid.sharpRun_standard hsmall

/-- Two bounds that contradict each other, and one bound on the wrong side. -/
theorem error_standard_truthful_contradictory_and_open :
    (¬ ∃ q, (⟨⟨1, 0⟩, ⟨[⟨⟨1, 0⟩, 1⟩, ⟨⟨-1, 0⟩, -2⟩]⟩⟩ : Program Rat).Feasible q) ∧
    ∀ bound, ∃ q, (⟨⟨1, 1⟩, ⟨[⟨⟨-1, 0⟩, -1⟩]⟩⟩ : Program Rat).Feasible q ∧
      bound < (⟨⟨1, 1⟩, ⟨[⟨⟨-1, 0⟩, -1⟩]⟩⟩ : Program Rat).value q := by
  obtain ⟨hinfeasible, hunbounded, hgrid⟩ := error_standard_truthful
  have hcontradictory :
    (⟨⟨1, 0⟩, ⟨[⟨⟨1, 0⟩, 1⟩, ⟨⟨-1, 0⟩, -2⟩]⟩⟩ : Program Rat).optimum? .standard
    = .error (.infeasible 1) := by decide +kernel
  have hopen : (⟨⟨1, 1⟩, ⟨[⟨⟨-1, 0⟩, -1⟩]⟩⟩ : Program Rat).optimum? .standard
    = .error (.unbounded 1) := by decide +kernel
  exact ⟨(hinfeasible _ _ hcontradictory).2.2
    (hgrid _ 1 1 (by decide +kernel) (by decide)).2,
    hunbounded _ _ hopen (hgrid _ 1 1 (by decide +kernel) (by decide)).1⟩

/-- One bound with a coefficient within the tolerance. -/
def faintBound : Program Rat :=
  ⟨⟨1, 0⟩, ⟨[⟨⟨1 / 10 ^ 10, 0⟩, 1⟩]⟩⟩

/-- A demand with a coefficient within the tolerance. -/
def faintDemand : Program Rat :=
  ⟨⟨-1, 0⟩, ⟨[⟨⟨-1 / 10 ^ 10, 0⟩, -1⟩]⟩⟩

/-- **Failures under the standard limits need not be truthful**: an objective said to be
unbounded may have a bound, and a program said to be infeasible a feasible point. -/
theorem error_standard_faint :
    (∃ column, faintBound.optimum? .standard = .error (.unbounded column) ∧
      ∀ q, faintBound.Feasible q → faintBound.value q ≤ 10 ^ 10) ∧
    ∃ shortfall, faintDemand.optimum? .standard = .error (.infeasible shortfall) ∧
      faintDemand.Feasible ⟨10 ^ 10, 0⟩ := by
  refine ⟨⟨0, by decide +kernel, fun q hq => ?_⟩, 1, by decide +kernel, by decide +kernel⟩
  have hbound : 1 / 10 ^ 10 * q.x + 0 * q.y ≤ 1 := hq.2.2.2 _ List.mem_cons_self
  show 1 * q.x + 0 * q.y ≤ 10 ^ 10
  linarith

end Program

end LatticeLP

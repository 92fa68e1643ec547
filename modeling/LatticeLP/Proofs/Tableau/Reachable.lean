import LatticeLP.Proofs.Tableau.Eviction

/-!
# Tableaux that optimising reaches

Optimising is a run of pivots at entries that are not zero, in whichever of its ways it
ends (`follows_optimize`). All that such pivots keep is therefore kept by any number of
optimizations, one after the other, with any budgets and any tolerances that are not
negative: the canonical form, the solutions of the rows and the objective at them. For
the tableau of a program this comes to `Represents` (`represents_optimizeAll`) – and it
includes the optimizations that fail in the middle of their first phase, since the
objective is put back before the failure is reported.

The right-hand sides are another matter. A ratio that is cut short by a tolerance may
leave one of them slightly negative, and only with the tolerance at zero do they stay
non-negative (`Fit.optimize`).
-/

namespace LatticeLP

namespace Tableau

/-! ## Optimising again and again -/

/-- The tableau after several optimizations in turn, whatever their verdicts. -/
def optimizeAll {K : Type} [Scalar K] (t : Tableau K) (os : List (Options K)) :
    Tableau K :=
  os.foldl (fun t o => (t.optimize o).tableau) t

/-- **What one optimization keeps, several in turn keep.** -/
theorem optimizeAll_invariant {K : Type} [Scalar K] {P : Tableau K → Prop} {t : Tableau K}
    {os : List (Options K)} (step : ∀ s, ∀ o ∈ os, P s → P (s.optimize o).tableau)
    (ht : P t) :
    P (t.optimizeAll os) := by
  induction os generalizing t with
  | nil => exact ht
  | cons o os ih =>
    exact ih (fun s o' ho' => step s o' (List.mem_cons_of_mem o ho'))
      (step t o List.mem_cons_self ht)

/-- Where no objective is carried, pivots carry none. -/
theorem carried_pivots {K : Type} [Scalar K] {t : Tableau K} (h : t.carried = [])
    (cells : List Cell) : (t.pivots cells).carried = [] := by
  induction cells generalizing t with
  | nil => exact h
  | cons cell cells ih =>
    refine ih ?_
    unfold pivot
    split
    · exact h
    · simp [h]

variable {t t' : Tableau Rat}

theorem follows_maximize (t : Tableau Rat) {tolerance : Rat} (h0 : 0 ≤ tolerance)
    (budget : Nat) (repair : List Cell) (evictions : Option (List Cell)) :
    t.Follows Pivotal (t.maximize tolerance budget repair evictions).ascent :=
  (isAscent_ascend t.firstArtificial tolerance budget t).follows.pivotal_of_bland h0

/-- **Every pivot of an optimization is at an entry that is not zero.** -/
theorem follows_optimize (t : Tableau Rat) {o : Options Rat} (h0 : 0 ≤ o.tolerance) :
    t.Follows Pivotal (t.optimize o).cells := by
  have hrepair : t.Follows Pivotal (t.repairPhase o).cells := follows_repairPhase h0
  refine optimize_cases t o (fun _ => ?_) (fun _ e _ => ?_) (fun _ _ _ => ?_)
    (fun _ _ _ => ?_)
  · exact follows_maximize t h0 o.budget [] none
  · rw [Optimization.cells, follows_append, follows_append]
    exact ⟨⟨hrepair, trivial⟩, trivial⟩
  · rw [Optimization.cells, follows_append, follows_append]
    exact ⟨⟨hrepair, trivial⟩, trivial⟩
  · rw [Optimization.cells, follows_append, follows_append]
    refine ⟨⟨hrepair, ?_⟩, ?_⟩
    · exact (evict_spec _ _).2.pivotal_of_eviction h0
    · have hmaximize := follows_maximize (t.repaired o).1 h0
        (o.budget - (t.repairPhase o).cells.length) (t.repairPhase o).cells
        (some (t.repaired o).2)
      rw [repaired_fst] at hmaximize ⊢
      exact hmaximize

/-- **An optimization keeps the canonical form and what the tableau says.** -/
theorem Canonical.optimize (ht : t.Canonical) {o : Options Rat} (h0 : 0 ≤ o.tolerance) :
    (t.optimize o).tableau.Canonical ∧ t.Equivalent (t.optimize o).tableau := by
  rw [tableau_optimize]
  exact (t.follows_optimize h0).canonical ht

/-- So does any number of them. -/
theorem Canonical.optimizeAll {os : List (Options Rat)} (ht : t.Canonical)
    (hos : ∀ o ∈ os, 0 ≤ o.tolerance) :
    (t.optimizeAll os).Canonical ∧ t.Equivalent (t.optimizeAll os) := by
  refine optimizeAll_invariant (P := fun s => s.Canonical ∧ t.Equivalent s)
    (fun s o ho hs => ?_) ⟨ht, Equivalent.refl t⟩
  obtain ⟨hcan, heq⟩ := hs.1.optimize (hos o ho)
  exact ⟨hcan, hs.2.trans heq⟩

/-- Optimising again and again makes pivots and changes nothing else. -/
theorem exists_optimizeAll_eq_pivots {K : Type} [Scalar K] (t : Tableau K)
    (os : List (Options K)) : ∃ cells, t.optimizeAll os = t.pivots cells := by
  refine optimizeAll_invariant (P := fun s => ∃ cells, s = t.pivots cells)
    (fun s o _ hs => ?_) ⟨[], rfl⟩
  obtain ⟨cells, rfl⟩ := hs
  exact ⟨_, (tableau_optimize _ o).trans (pivots_append t cells _).symm⟩

theorem carried_optimizeAll {K : Type} [Scalar K] {t : Tableau K} (h : t.carried = [])
    (os : List (Options K)) : (t.optimizeAll os).carried = [] := by
  obtain ⟨cells, hcells⟩ := t.exists_optimizeAll_eq_pivots os
  rw [hcells]
  exact carried_pivots h cells

/-! ## Fitness -/

/-- **A tableau fit for exact optimization**: in canonical form, without a negative
right-hand side and with artificial variables that may take any values. -/
structure Fit (t : Tableau Rat) : Prop extends Canonical t where
  /-- No right-hand side is negative. -/
  nonneg : t.Nonneg
  /-- Artificial variables may take any values. -/
  free : t.Free

/-- **With the tolerance at zero an optimization keeps a tableau fit.** -/
theorem Fit.optimize (ht : t.Fit) (budget : Nat) :
    (t.optimize ⟨0, budget⟩).tableau.Fit := by
  obtain ⟨hcan, heq⟩ := ht.toCanonical.optimize (o := ⟨0, budget⟩) le_rfl
  refine ⟨hcan, ?_, heq.free ht.free⟩
  -- the second phase starts from a ready tableau, and the right-hand sides are part of
  -- that
  have hmaximize : ∀ (s : Tableau Rat) (budget' : Nat), s.Ready →
      (s.ascend s.firstArtificial 0 budget').tableau.Nonneg := by
    intro s budget' hs
    have hphase := isAscent_ascend s.firstArtificial 0 budget' s
    rw [hphase.tableau_eq]
    exact (hs.pivots hphase.follows.ratio_of_bland).1.nonneg
  refine optimize_cases t ⟨0, budget⟩ (fun h => ?_) (fun _ e _ => ?_) (fun _ _ _ => ?_)
    (fun _ _ hshort => ?_)
  · exact hmaximize t _ (ht.toCanonical.ready ht.nonneg h)
  · exact nonneg_repairPhase ht.toCanonical ht.nonneg
  · exact nonneg_repairPhase ht.toCanonical ht.nonneg
  · exact hmaximize _ _ (ready_repaired ht.toCanonical ht.nonneg ht.free hshort).1

theorem Fit.optimizeAll {os : List (Options Rat)} (ht : t.Fit)
    (hos : ∀ o ∈ os, o.tolerance = 0) :
    (t.optimizeAll os).Fit := by
  refine optimizeAll_invariant (fun s o ho hs => ?_) ht
  obtain ⟨tolerance, budget⟩ := o
  obtain rfl : tolerance = 0 := hos _ ho
  exact hs.optimize budget

/-! ## The tableau of a program -/

/-- **A tableau represents a program** in dense form, of which `t₀` is the fresh
tableau: beside the canonical form, it has a row per bound and a column per decision,
slack and artificial variable, it has the solutions of the fresh tableau, and its value
is the objective at its solution. -/
structure Represents (objective bounds : List Rat) (t₀ t : Tableau Rat) : Prop
    extends Canonical t where
  /-- There is one row per bound. -/
  height_eq : t.height = bounds.length
  /-- There is one column per decision variable, per bound and per negative bound. -/
  width_eq : t.width = objective.length + bounds.length + bounds.countP (· < 0)
  /-- The price row is the only one besides. -/
  carried_eq : t.carried = []
  /-- No variable is basic in two rows. -/
  nodup : t.basics.Nodup
  /-- The rows have the solutions they had. -/
  solves_iff : ∀ v, t.Solves v ↔ t₀.Solves v
  /-- The value is the objective at the decision variables. -/
  value_eq : t.value = dot objective t.solution

section Shape

variable {K : Type} [Scalar K] {objective bounds : List K} {matrix : List (List K)}
  {t₀ : Tableau K} (shape : ofDense? objective matrix bounds = .ok t₀)

include shape

theorem height_of_ofDense? : t₀.height = bounds.length := by
  obtain ⟨hlen, _, rfl⟩ := ofDense?_eq_ok_iff.mp shape
  rw [height_start, List.length_zipWith, hlen, min_self]

theorem width_of_ofDense? :
    t₀.width = objective.length + bounds.length + bounds.countP (· < 0) := by
  have hheight := height_of_ofDense? shape
  obtain ⟨hlen, _, rfl⟩ := ofDense?_eq_ok_iff.mp shape
  rw [height_start] at hheight
  rw [width_start, hheight, negatives_zipWith hlen]

end Shape

section Dense

variable {objective bounds : List Rat} {matrix : List (List Rat)} {t₀ : Tableau Rat}
  (shape : ofDense? objective matrix bounds = .ok t₀)

include shape

/-- **The fresh tableau of a program is fit.** -/
theorem fit_of_ofDense? : t₀.Fit := by
  have hsys := fun e he => length_of_mem_zipWith shape (e := e) he
  obtain ⟨_, _, rfl⟩ := ofDense?_eq_ok_iff.mp shape
  refine ⟨canonical_start hsys, rhs_start_nonneg, fun a => ?_⟩
  refine ⟨completion objective (List.zipWith Equation.mk matrix bounds) (fun _ => 0) a,
    solves_completion hsys _ _, fun j hj => ?_⟩
  exact completion_artificial (firstArtificial_start (K := Rat) ▸ hj) _ _

/-- **Every optimization leaves a tableau that represents the program**, and with the
tolerance at zero throughout no right-hand side is negative. -/
theorem represents_optimizeAll {os : List (Options Rat)}
    (hos : ∀ o ∈ os, 0 ≤ o.tolerance) :
    Represents objective bounds t₀ (t₀.optimizeAll os) ∧
      ((∀ o ∈ os, o.tolerance = 0) → (t₀.optimizeAll os).Nonneg) := by
  have hfit := fit_of_ofDense? shape
  obtain ⟨hcan, heq⟩ := hfit.toCanonical.optimizeAll hos
  refine ⟨⟨hcan, heq.height.trans (height_of_ofDense? shape),
    heq.width.trans (width_of_ofDense? shape), ?_, hcan.nodup_basics, heq.solves_iff, ?_⟩,
    fun hzero => (hfit.optimizeAll hzero).nonneg⟩
  · refine carried_optimizeAll ?_ os
    obtain ⟨_, _, rfl⟩ := ofDense?_eq_ok_iff.mp shape
    rfl
  · rw [← hcan.residual_price_valueAt,
      heq.objective _ ((heq.solves_iff _).mp hcan.solves_valueAt),
      solution, heq.decisions]
    obtain ⟨_, _, rfl⟩ := ofDense?_eq_ok_iff.mp shape
    rw [residual_price_start]
    exact (dot_map_range rfl _).symm

end Dense

/-- A program with an artificial variable, first with a budget that its first phase
exhausts. -/
theorem represents_optimizeAll_interrupted : ∃ t₀ : Tableau Rat,
    ofDense? [1, 1] [[1, 2], [-1, 0]] [4, -1] = .ok t₀ ∧
      Represents [1, 1] [4, -1] t₀ (t₀.optimizeAll [⟨1 / 10, 0⟩, ⟨0, 10⟩]) ∧
      (t₀.optimizeAll [⟨0, 0⟩, ⟨0, 10⟩]).Nonneg := by
  have shape : ofDense? [1, 1] [[1, 2], [-1, 0]] [4, -1]
    = .ok (start [1, 1] [⟨[1, 2], 4⟩, ⟨[-1, 0], (-1 : Rat)⟩]) := rfl
  exact ⟨_, shape, (represents_optimizeAll shape (by simp)).1,
    (represents_optimizeAll shape (by simp)).2 (by simp)⟩

end Tableau

end LatticeLP

import Mathlib.Algebra.Order.Field.Basic
import Mathlib.Algebra.Order.Field.Rat
import Mathlib.Order.Filter.AtTopBot.Basic
import Mathlib.Order.Filter.Finite
import Mathlib.Tactic.Linarith
import LatticeLP.Plane.Region
import LatticeLP.Proofs.Scalar.Comparable

/-!
# The ceiling of a region

Above a first coordinate `x` a region is a closed interval of second coordinates, if it
has points there at all. Constraints with a positive second coefficient bound it from
above and those with a negative one – the **floors** – from below; those without a
second coefficient let all of the line pass or nothing. The ceiling is computed from all
constraints but the floors, and together with zero it bounds exactly what these leave
(`feasible_iff_under_ceiling?`).

So it is the top of the interval if there is one. But where a floor lies above the
ceiling the region has no point above `x`, and there is a ceiling nevertheless
(`exists_ceiling_below_floor`). This is the only way in which the ceiling can be wrong
about the region (`trueCeiling_iff`).
-/

namespace LatticeLP

open Filter

/-! ## Heights -/

namespace Height

/-- A second coordinate is no higher than a height. -/
def Admits : Height Rat → Rat → Prop
  | unbounded, _ => True
  | bounded c, y => y ≤ c

variable {h : Height Rat} {c y z : Rat}

@[simp] theorem admits_unbounded (y : Rat) : unbounded.Admits y :=
  trivial

@[simp] theorem admits_bounded : (bounded c).Admits y ↔ y ≤ c :=
  Iff.rfl

theorem admitsZero_iff : h.AdmitsZero ↔ h.Admits 0 := by
  cases h <;> rfl

/-- What is below an admitted coordinate is admitted. -/
theorem Admits.mono (hz : h.Admits z) (hyz : y ≤ z) : h.Admits y := by
  cases h with
  | unbounded => trivial
  | bounded c => exact hyz.trans hz

/-- **A lowered height admits what both admit.** -/
theorem admits_cut : (h.cut c).Admits y ↔ h.Admits y ∧ y ≤ c := by
  cases h with
  | unbounded => simp [cut, Scalar.belowTop]
  | bounded d => rw [cut, admits_bounded, lesser_rational, le_min_iff, admits_bounded]

/-- A second coordinate is no higher than a ceiling; nothing is, where there is none. -/
def Under (ceiling : Option (Height Rat)) (y : Rat) : Prop :=
  ∃ h ∈ ceiling, h.Admits y

@[simp] theorem not_under_none (y : Rat) : ¬ Under none y := by
  simp [Under]

@[simp] theorem under_some : Under (some h) y ↔ h.Admits y := by
  simp [Under]

theorem under_bind {o : Option (Height Rat)} {f : Height Rat → Option (Height Rat)} :
    Under (o >>= f) y ↔ ∃ h ∈ o, Under (f h) y := by
  cases o <;> simp

end Height

/-! ## One constraint -/

namespace Constraint

variable {c : Constraint Rat} {h : Height Rat} {x y z : Rat}

/-- The constraint bounds the second coordinate from below. -/
def IsFloor (c : Constraint Rat) : Prop :=
  c.form.b < 0

instance (c : Constraint Rat) : Decidable c.IsFloor :=
  inferInstanceAs (Decidable (_ < _))

theorem holds_iff : c.Holds ⟨x, y⟩ ↔ c.form.b * y ≤ c.bound - c.form.a * x :=
  le_sub_iff_add_le'.symm

/-- A point above a floor stays above it going up. -/
theorem IsFloor.holds_mono (hc : c.IsFloor) (hy : c.Holds ⟨x, y⟩) (hyz : y ≤ z) :
    c.Holds ⟨x, z⟩ := by
  rw [holds_iff] at hy ⊢
  exact (mul_le_mul_of_nonpos_left hyz hc.le).trans hy

/-- High enough points are above a floor. -/
theorem IsFloor.eventually_holds (hc : c.IsFloor) (x : Rat) :
    ∀ᶠ y in atTop, c.Holds ⟨x, y⟩ := by
  filter_upwards [eventually_ge_atTop ((c.bound - c.form.a * x) / c.form.b)] with y hy
  rw [holds_iff, mul_comm]
  exact (div_le_iff_of_neg hc).mp hy

/-- **What a constraint leaves of a height** are the points that satisfy it, unless it
is a floor. -/
theorem under_cap? :
    Height.Under (c.cap? x h) y ↔ h.Admits y ∧ (c.IsFloor ∨ c.Holds ⟨x, y⟩) := by
  rw [holds_iff, IsFloor]
  rcases lt_trichotomy c.form.b 0 with hb | hb | hb
  · simp [cap?, hb, hb.not_gt]
  · simp only [cap?, hb, lt_irrefl, if_false, zero_mul, false_or, sub_nonneg]
    split
    · next hrest => simp [(sub_neg.mp hrest).not_ge]
    · next hrest => simp [not_lt.mp (sub_neg.not.mp hrest)]
  · simp only [cap?, hb, if_true, Height.under_some, Height.admits_cut, hb.not_gt,
      false_or, le_div_iff₀ hb]
    rw [mul_comm]

/-- What several constraints leave of it. -/
theorem under_foldlM_cap? {cs : List (Constraint Rat)} :
    Height.Under (cs.foldlM (fun h (c : Constraint Rat) => c.cap? x h) h) y ↔
      h.Admits y ∧ ∀ c ∈ cs, c.IsFloor ∨ c.Holds ⟨x, y⟩ := by
  induction cs generalizing h with
  | nil => simp
  | cons c cs ih =>
    have hcap : (∃ h' ∈ c.cap? x h, h'.Admits y) ↔
      h.Admits y ∧ (c.IsFloor ∨ c.Holds ⟨x, y⟩) := under_cap?
    simp only [List.foldlM_cons, Height.under_bind, ih, List.forall_mem_cons]
    rw [← and_assoc, ← hcap]
    simp only [← and_assoc, exists_and_right]

end Constraint

/-! ## The region -/

namespace Region

variable {r : Region Rat} {h : Height Rat} {c x y : Rat}

theorem feasible_iff :
    r.Feasible ⟨x, y⟩ ↔ 0 ≤ x ∧ 0 ≤ y ∧ ∀ c ∈ r.constraints, c.Holds ⟨x, y⟩ := by
  simp [Feasible, Point.isFinite]

/-- A ceiling leaves room for a point of the quadrant. -/
theorem admits_zero_of_ceiling? (hceiling : r.ceiling? x = some h) : h.Admits 0 := by
  unfold ceiling? at hceiling
  split at hceiling
  · cases hceiling
  · exact Height.admitsZero_iff.mp
      (of_decide_eq_true (Option.filter_eq_some_iff.mp hceiling).2)

/-- **What is under the ceiling** and not below zero satisfies all constraints but the
floors. -/
theorem under_ceiling? (hy : 0 ≤ y) :
    Height.Under (r.ceiling? x) y ↔ 0 ≤ x ∧ ∀ c ∈ r.constraints,
      c.IsFloor ∨ c.Holds ⟨x, y⟩ := by
  unfold ceiling?
  split
  · next hx => simp [hx.not_ge]
  · next hx =>
    have hfold :
      Height.Under
        (r.constraints.foldlM (fun h (c : Constraint Rat) => c.cap? x h) .unbounded) y ↔
        _ := Constraint.under_foldlM_cap?
    simp only [Height.admits_unbounded, true_and] at hfold
    rw [← hfold]
    simp only [not_lt.mp hx, true_and]
    -- a height that admits `y` leaves room for zero, so that none of these is sorted out
    constructor
    · rintro ⟨h, hmem, hadmits⟩
      exact ⟨h, (Option.filter_eq_some_iff.mp hmem).1, hadmits⟩
    · rintro ⟨h, hmem, hadmits⟩
      refine ⟨h, Option.filter_eq_some_iff.mpr ⟨hmem, decide_eq_true ?_⟩, hadmits⟩
      exact Height.admitsZero_iff.mpr (hadmits.mono hy)

/-- **Membership by the ceiling**: a point of the region is not below zero, under the
ceiling, and above the floors. -/
theorem feasible_iff_under_ceiling? : r.Feasible ⟨x, y⟩ ↔
    0 ≤ y ∧ Height.Under (r.ceiling? x) y ∧ ∀ c ∈ r.constraints, c.IsFloor →
      c.Holds ⟨x, y⟩ := by
  rw [feasible_iff]
  constructor
  · rintro ⟨hx, hy, hholds⟩
    exact ⟨hy, (under_ceiling? hy).mpr ⟨hx, fun c hc => .inr (hholds c hc)⟩,
      fun c hc _ => hholds c hc⟩
  · rintro ⟨hy, hunder, hfloors⟩
    obtain ⟨hx, hothers⟩ := (under_ceiling? hy).mp hunder
    exact ⟨hx, hy, fun c hc => (hothers c hc).elim (hfloors c hc) id⟩

/-! ## True ceilings -/

/-- **The ceiling above `x` is what it is meant to be**: there is none where there is no
point of the region, one that is finite is the second coordinate of its highest point,
and one that is not lets all high enough points pass. -/
structure TrueCeiling (r : Region Rat) (x : Rat) : Prop where
  /-- There is no ceiling where there is no point. -/
  eq_none_iff : r.ceiling? x = none ↔ ¬ ∃ y, r.Feasible ⟨x, y⟩
  /-- A finite ceiling is reached and not exceeded. -/
  of_bounded : ∀ c, r.ceiling? x = some (.bounded c) →
    r.Feasible ⟨x, c⟩ ∧ ∀ y, c < y → ¬ r.Feasible ⟨x, y⟩
  /-- Under an infinite ceiling there is room for all high enough points. -/
  of_unbounded : r.ceiling? x = some .unbounded → ∀ᶠ y in atTop, r.Feasible ⟨x, y⟩

/-- Without a ceiling there is no point. -/
theorem not_feasible_of_ceiling?_eq_none (hceiling : r.ceiling? x = none) (y : Rat) :
    ¬ r.Feasible ⟨x, y⟩ := by
  rw [feasible_iff_under_ceiling?, hceiling]
  simp

/-- No point is above a finite ceiling. -/
theorem le_ceiling_of_feasible (hceiling : r.ceiling? x = some (.bounded c))
    (hfeasible : r.Feasible ⟨x, y⟩) :
    y ≤ c := by
  obtain ⟨_, hunder, _⟩ := feasible_iff_under_ceiling?.mp hfeasible
  rwa [hceiling, Height.under_some, Height.admits_bounded] at hunder

/-- **A finite ceiling is reached** if it is above the floors. -/
theorem feasible_ceiling_iff (hceiling : r.ceiling? x = some (.bounded c)) :
    r.Feasible ⟨x, c⟩ ↔ ∀ k ∈ r.constraints, k.IsFloor → k.Holds ⟨x, c⟩ := by
  have hnonneg : 0 ≤ c := admits_zero_of_ceiling? hceiling
  rw [feasible_iff_under_ceiling?, hceiling]
  simp [hnonneg]

/-- Under an infinite ceiling only the floors are in the way, and these are left
behind. -/
theorem eventually_feasible (hceiling : r.ceiling? x = some .unbounded) :
    ∀ᶠ y in atTop, r.Feasible ⟨x, y⟩ := by
  have hfloors : ∀ᶠ y in atTop, ∀ k ∈ {k | k ∈ r.constraints}, k.IsFloor →
      k.Holds ⟨x, y⟩ :=
    (eventually_all_finite r.constraints.finite_toSet).mpr fun k _ => by
      by_cases hk : k.IsFloor
      · exact (hk.eventually_holds x).mono fun _ hy _ => hy
      · exact .of_forall fun _ h => absurd h hk
  filter_upwards [hfloors, eventually_ge_atTop 0] with y hy hnonneg
  rw [feasible_iff_under_ceiling?, hceiling]
  exact ⟨hnonneg, by simp, hy⟩

/-- A region with a point above `x` reaches its ceiling there: going up from the point
leaves no floor. -/
theorem feasible_ceiling_of_feasible (hceiling : r.ceiling? x = some (.bounded c))
    (hfeasible : r.Feasible ⟨x, y⟩) : r.Feasible ⟨x, c⟩ := by
  obtain ⟨_, _, hfloors⟩ := feasible_iff_under_ceiling?.mp hfeasible
  have hle := le_ceiling_of_feasible hceiling hfeasible
  exact (feasible_ceiling_iff hceiling).mpr fun k hk hfloor =>
    hfloor.holds_mono (hfloors k hk hfloor) hle

/-- **The ceiling is true if and only if it is above the floors**, or else there is none
or an infinite one. In any case there is no point where there is no ceiling, no point
above a finite one, and room under an infinite one; and a ceiling above `x` is true if
the region has a point there. -/
theorem trueCeiling_iff (r : Region Rat) (x : Rat) :
    (r.TrueCeiling x ↔
      ∀ c, r.ceiling? x = some (.bounded c) → ∀ k ∈ r.constraints, k.IsFloor →
        k.Holds ⟨x, c⟩) ∧
    (r.ceiling? x = none → ∀ y, ¬ r.Feasible ⟨x, y⟩) ∧
    (∀ c, r.ceiling? x = some (.bounded c) → ∀ y, c < y → ¬ r.Feasible ⟨x, y⟩) ∧
    (r.ceiling? x = some .unbounded → ∀ᶠ y in atTop, r.Feasible ⟨x, y⟩) ∧
    ((∃ y, r.Feasible ⟨x, y⟩) → r.TrueCeiling x) := by
  have habove : ∀ c, r.ceiling? x = some (.bounded c) → ∀ y, c < y →
      ¬ r.Feasible ⟨x, y⟩ :=
    fun c hceiling y hy hfeasible => hy.not_ge (le_ceiling_of_feasible hceiling hfeasible)
  have htrue : (∀ c, r.ceiling? x = some (.bounded c) → r.Feasible ⟨x, c⟩) →
    r.TrueCeiling x := fun hreached =>
    { eq_none_iff := by
        refine ⟨fun hceiling ⟨y, hy⟩ => not_feasible_of_ceiling?_eq_none hceiling y hy,
          fun hempty => ?_⟩
        match hceiling : r.ceiling? x with
        | none => rfl
        | some (.bounded c) => exact absurd ⟨c, hreached c hceiling⟩ hempty
        | some .unbounded => exact absurd (eventually_feasible hceiling).exists hempty
      of_bounded := fun c hceiling => ⟨hreached c hceiling, habove c hceiling⟩
      of_unbounded := eventually_feasible }
  refine ⟨⟨fun h c hceiling =>
    (feasible_ceiling_iff hceiling).mp (h.of_bounded c hceiling).1, fun h => ?_⟩,
    not_feasible_of_ceiling?_eq_none, habove, eventually_feasible, fun ⟨y, hy⟩ => ?_⟩
  · exact htrue fun c hceiling => (feasible_ceiling_iff hceiling).mpr (h c hceiling)
  · exact htrue fun c hceiling => feasible_ceiling_of_feasible hceiling hy

/-- The strip between a floor and a constraint from above, which meet at `x = 2`. -/
def wedge : Region Rat :=
  ⟨[⟨⟨1, -2⟩, -2⟩, ⟨⟨1, 2⟩, 6⟩]⟩

/-- Above `x = 0` the wedge has its floor at `1` and its ceiling at `3`. -/
theorem trueCeiling_iff_wedge :
    wedge.Feasible ⟨0, 1⟩ ∧ wedge.ceiling? 0 = some (.bounded 3) ∧
      wedge.TrueCeiling 0 := by
  have hfeasible : wedge.Feasible ⟨0, 1⟩ := by decide +kernel
  exact ⟨hfeasible, by decide +kernel, (trueCeiling_iff wedge 0).2.2.2.2 ⟨1, hfeasible⟩⟩

/-- **A ceiling may be reported where the region has no point**: the floor `y ≥ 3` is
above the ceiling that `y ≤ 2` gives, and the region is empty. -/
theorem exists_ceiling_below_floor :
    let r : Region Rat := ⟨[⟨⟨0, 1⟩, 2⟩, ⟨⟨0, -1⟩, -3⟩]⟩
    r.ceiling? 0 = some (.bounded 2) ∧ (∀ p, ¬ r.Feasible p) ∧ ¬ r.TrueCeiling 0 := by
  intro r
  have hceiling : r.ceiling? 0 = some (.bounded 2) := by decide +kernel
  have hempty : ∀ p, ¬ r.Feasible p := fun ⟨x, y⟩ hfeasible => by
    obtain ⟨_, _, hholds⟩ := feasible_iff.mp hfeasible
    have hbelow : y ≤ 2 := by simpa [Constraint.holds_iff] using hholds _ (.head _)
    have habove : 3 ≤ y := by
      simpa [Constraint.holds_iff] using hholds _ (.tail _ (.head _))
    linarith
  exact ⟨hceiling, hempty, fun h => hempty _ (h.of_bounded 2 hceiling).1⟩

end Region

end LatticeLP

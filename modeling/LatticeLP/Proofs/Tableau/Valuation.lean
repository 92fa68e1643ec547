import Mathlib.Algebra.BigOperators.Field
import Mathlib.Data.List.GetD
import Mathlib.Data.Rat.Floor
import Mathlib.Tactic.Linarith
import Mathlib.Tactic.NormNum
import Mathlib.Tactic.Positivity
import Mathlib.Tactic.Ring
import LatticeLP.Scalar.Rational
import LatticeLP.Tableau.Pivot

/-!
# Equations under a valuation

A tableau never mentions the values of its variables: it is a system of equations about
them. A **valuation** gives every column a value, and an equation then has a
**residual** there, its right-hand side less its left-hand side. A row holds at a
valuation exactly when its residual is zero, and the residual of the price row is the
value of the objective.

Reading both through one notion is what makes row operations transparent. An elimination
subtracts a multiple of the pivot row's residual from every other residual, whichever
kind of equation it is (`Equation.residual_eliminate`); where the pivot row holds,
nothing changes at all.
-/

namespace LatticeLP

/-! ## Linear combinations -/

/-- The linear combination of the values of a valuation with a list of coefficients. -/
def linear (coeffs : List Rat) (v : Nat → Rat) : Rat :=
  ∑ j ∈ Finset.range coeffs.length, coeffs.getD j 0 * v j

/-- A combination may be summed over any range that covers its coefficients, since the
missing ones read as zero. -/
theorem linear_eq_sum {coeffs : List Rat} {width : Nat} (h : coeffs.length ≤ width)
    (v : Nat → Rat) :
    linear coeffs v = ∑ j ∈ Finset.range width, coeffs.getD j 0 * v j := by
  refine Finset.sum_subset (Finset.range_subset_range.mpr h) fun j _ hj => ?_
  rw [Finset.mem_range, not_lt] at hj
  rw [List.getD_eq_default _ _ hj, zero_mul]

/-- A combination depends on the valuation only through the columns that have a
coefficient. -/
theorem linear_congr {coeffs : List Rat} {v w : Nat → Rat}
    (h : ∀ j < coeffs.length, v j = w j) :
    linear coeffs v = linear coeffs w :=
  Finset.sum_congr rfl fun j hj => by rw [h j (Finset.mem_range.mp hj)]

theorem linear_add (coeffs : List Rat) (v w : Nat → Rat) :
    linear coeffs (fun j => v j + w j) = linear coeffs v + linear coeffs w := by
  unfold linear
  rw [← Finset.sum_add_distrib]
  exact Finset.sum_congr rfl fun j _ => mul_add _ _ _

theorem linear_smul (coeffs : List Rat) (a : Rat) (v : Nat → Rat) :
    linear coeffs (fun j => a * v j) = a * linear coeffs v := by
  unfold linear
  rw [Finset.mul_sum]
  exact Finset.sum_congr rfl fun j _ => mul_left_comm _ _ _

/-- The combination with a single variable of value one is its coefficient, inside the
list or beyond. -/
theorem linear_single (coeffs : List Rat) (column : Nat) :
    linear coeffs (fun j => if j = column then 1 else 0) = coeffs.getD column 0 := by
  rw [linear_eq_sum (Nat.le_max_left _ (column + 1)), Finset.sum_eq_single column]
  · rw [if_pos rfl, mul_one]
  · intro j _ hj
    rw [if_neg hj, mul_zero]
  · intro h
    exact absurd (Finset.mem_range.mpr (Nat.le_max_right _ _)) h

theorem linear_append (a b : List Rat) (v : Nat → Rat) :
    linear (a ++ b) v = linear a v + linear b (fun j => v (a.length + j)) := by
  unfold linear
  rw [List.length_append, Finset.sum_range_add]
  congr 1
  · refine Finset.sum_congr rfl fun j hj => ?_
    rw [List.getD_append _ _ _ _ (Finset.mem_range.mp hj)]
  · refine Finset.sum_congr rfl fun j _ => ?_
    rw [List.getD_append_right _ _ _ _ (Nat.le_add_right _ _), Nat.add_sub_cancel_left]

theorem linear_map_mul (a : Rat) (coeffs : List Rat) (v : Nat → Rat) :
    linear (coeffs.map (a * ·)) v = a * linear coeffs v := by
  unfold linear
  rw [List.length_map, Finset.mul_sum]
  refine Finset.sum_congr rfl fun j hj => ?_
  have hj' := Finset.mem_range.mp hj
  simp [hj', mul_assoc]

theorem linear_replicate_zero (n : Nat) (v : Nat → Rat) :
    linear (List.replicate n 0) v = 0 :=
  Finset.sum_eq_zero fun j hj => by
    have hj' := Finset.mem_range.mp hj
    rw [List.length_replicate] at hj'
    simp [hj']

namespace Equation

/-! ## Shapes of row operations

These hold in any arithmetic: they count coefficients and never look at one. -/

section Shapes

variable {K : Type} [Scalar K]

@[simp] theorem length_divide (e : Equation K) (scale : K) :
    (e.divide scale).coeffs.length = e.coeffs.length :=
  List.length_map _

theorem length_subtract {e p : Equation K} (h : e.coeffs.length = p.coeffs.length) :
    (e.subtract p).coeffs.length = e.coeffs.length := by
  simp [subtract, h]

theorem length_eliminate {e p : Equation K} (column : Nat)
    (h : e.coeffs.length = p.coeffs.length) :
    (e.eliminate column p).coeffs.length = e.coeffs.length := by
  simp only [eliminate]
  split
  · rfl
  · simp [subtractMultiple, h]

end Shapes

/-! ## Coefficients after row operations -/

theorem coeff_of_length_le {e : Equation Rat} {column : Nat}
    (h : e.coeffs.length ≤ column) :
    e.coeff column = 0 :=
  List.getD_eq_default _ _ h

theorem lt_length_of_coeff_ne_zero {e : Equation Rat} {column : Nat}
    (h : e.coeff column ≠ 0) :
    column < e.coeffs.length :=
  not_le.mp fun hle => h (coeff_of_length_le hle)

theorem coeff_divide (e : Equation Rat) (scale : Rat) (column : Nat) :
    (e.divide scale).coeff column = e.coeff column / scale := by
  by_cases h : column < e.coeffs.length
  · simp [divide, coeff, h]
  · rw [not_lt] at h
    rw [coeff_of_length_le h, coeff_of_length_le (by rwa [length_divide]), zero_div]

theorem coeff_subtract {e p : Equation Rat} (h : e.coeffs.length = p.coeffs.length)
    (column : Nat) : (e.subtract p).coeff column = e.coeff column - p.coeff column := by
  by_cases hc : column < e.coeffs.length
  · simp [subtract, coeff, hc, h ▸ hc]
  · rw [not_lt] at hc
    rw [coeff_of_length_le (by rwa [length_subtract h]), coeff_of_length_le hc,
      coeff_of_length_le (e := p) (by rwa [← h]), sub_zero]

/-- **Elimination subtracts a multiple of the pivot row**, also where the multiple is
zero and the equation is left as it is. -/
theorem eliminate_eq_subtractMultiple {e p : Equation Rat} (column : Nat)
    (h : e.coeffs.length = p.coeffs.length) :
    e.eliminate column p = e.subtractMultiple (e.coeff column) p := by
  simp only [eliminate]
  split
  · next h0 =>
    rw [eq_of_beq h0]
    obtain ⟨coeffs, rhs⟩ := e
    simp only [subtractMultiple, Equation.mk.injEq]
    refine ⟨List.ext_getElem (by simpa using h.le) fun j h₁ h₂ => ?_, by ring⟩
    simp
  · rfl

theorem coeff_eliminate {e p : Equation Rat} (column : Nat)
    (h : e.coeffs.length = p.coeffs.length) (j : Nat) :
    (e.eliminate column p).coeff j = e.coeff j - e.coeff column * p.coeff j := by
  by_cases hj : j < e.coeffs.length
  · rw [eliminate_eq_subtractMultiple column h]
    simp [subtractMultiple, coeff, hj, h ▸ hj]
  · rw [not_lt] at hj
    rw [coeff_of_length_le (by rwa [length_eliminate column h]), coeff_of_length_le hj,
      coeff_of_length_le (e := p) (by rwa [← h]), mul_zero, sub_zero]

theorem rhs_eliminate {e p : Equation Rat} (column : Nat)
    (h : e.coeffs.length = p.coeffs.length) :
    (e.eliminate column p).rhs = e.rhs - e.coeff column * p.rhs := by
  rw [eliminate_eq_subtractMultiple column h]
  rfl

/-! ## Residuals -/

/-- **What is left of the right-hand side** once the left-hand side is taken off. A row
holds where this is zero; of the price row it is the value of the objective. -/
def residual (e : Equation Rat) (v : Nat → Rat) : Rat :=
  e.rhs - linear e.coeffs v

theorem residual_divide (e : Equation Rat) (scale : Rat) (v : Nat → Rat) :
    (e.divide scale).residual v = e.residual v / scale := by
  have hlin : linear (e.divide scale).coeffs v = linear e.coeffs v / scale := by
    unfold linear
    rw [length_divide, Finset.sum_div]
    refine Finset.sum_congr rfl fun j _ => ?_
    rw [show (e.divide scale).coeffs.getD j 0 = e.coeffs.getD j 0 / scale from
      coeff_divide e scale j, div_mul_eq_mul_div]
  rw [residual, hlin, residual, sub_div]
  rfl

theorem residual_subtract {e p : Equation Rat} (h : e.coeffs.length = p.coeffs.length)
    (v : Nat → Rat) : (e.subtract p).residual v = e.residual v - p.residual v := by
  have hlin : linear (e.subtract p).coeffs v = linear e.coeffs v - linear p.coeffs v := by
    unfold linear
    rw [length_subtract h, ← h, ← Finset.sum_sub_distrib]
    refine Finset.sum_congr rfl fun j _ => ?_
    rw [show (e.subtract p).coeffs.getD j 0 = e.coeffs.getD j 0 - p.coeffs.getD j 0 from
      coeff_subtract h j, sub_mul]
  rw [residual, hlin, residual, residual,
    show (e.subtract p).rhs = e.rhs - p.rhs from rfl]
  ring

/-- **Elimination acts on residuals as it acts on equations.** -/
theorem residual_eliminate {e p : Equation Rat} (column : Nat)
    (h : e.coeffs.length = p.coeffs.length) (v : Nat → Rat) :
    (e.eliminate column p).residual v = e.residual v - e.coeff column * p.residual v := by
  have hlin : linear (e.eliminate column p).coeffs v
      = linear e.coeffs v - e.coeff column * linear p.coeffs v := by
    unfold linear
    rw [length_eliminate column h, ← h, Finset.mul_sum, ← Finset.sum_sub_distrib]
    refine Finset.sum_congr rfl fun j _ => ?_
    rw [show (e.eliminate column p).coeffs.getD j 0
      = e.coeffs.getD j 0 - e.coeff column * p.coeffs.getD j 0 from
        coeff_eliminate column h j]
    ring
  rw [residual, hlin, residual, residual, rhs_eliminate column h]
  ring

/-- A residual along a direction changes at a constant rate. -/
theorem residual_add_smul (e : Equation Rat) (v d : Nat → Rat) (a : Rat) :
    e.residual (fun j => v j + a * d j) = e.residual v - a * linear e.coeffs d := by
  rw [residual, linear_add, linear_smul, residual]
  ring

end Equation

end LatticeLP

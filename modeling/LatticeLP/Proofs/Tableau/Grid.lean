import Mathlib.Algebra.Ring.Subring.Basic
import LatticeLP.Proofs.Tableau.Planar
import LatticeLP.Proofs.Tableau.Tolerance

/-!
# Programs on a grid

Whether a tolerance blurs anything in a run can be said before the run, if the numbers
of the constraints are multiples of one fraction `1 / d` and the coefficients are not
too large – for instance if all of them are integers. The numbers of all its tableaux
are then fractions with bounded denominators, and such a fraction is zero or not very
small.

The bound comes from the plane. In a canonical tableau two of the constraints, axes
among them, are not represented in the basis at all, and their forms are independent: a
direction in which neither changes would be a still shift (`exists_pinned`). These two
determine the point, by Cramer's rule with their determinant for the denominator, and
the point determines all other variables (`exists_denominator`). This goes for basic
solutions and for edges alike, and so for right-hand sides, entries, prices of the
shortfall and ratios; a ratio is the right-hand side it would become.

Ratios of different rows have different denominators, so it is the product of two that a
tolerance must not reach (`OnGrid.sharpRun`).
-/

namespace LatticeLP

/-! ## Integers among the rationals -/

/-- The rationals that are integers. -/
def integers : Subring Rat :=
  (Int.castRingHom Rat).range

theorem intCast_mem_integers (n : Int) : (n : Rat) ∈ integers :=
  ⟨n, rfl⟩

/-- **An integer below one in magnitude is zero.** -/
theorem eq_zero_of_mem_integers {x : Rat} (hx : x ∈ integers) (h : |x| < 1) : x = 0 := by
  obtain ⟨n, rfl⟩ := hx
  change |(n : Rat)| < 1 at h
  rw [← Int.cast_abs, ← Int.cast_one, Int.cast_lt, Int.abs_lt_one_iff] at h
  rw [h, map_zero]

/-- A multiple of a fraction that is small for its denominator is zero. -/
theorem eq_zero_of_mul_mem_integers {D : Int} (hD : D ≠ 0) {x : Rat}
    (hx : D * x ∈ integers) (h : |(D : Rat)| * |x| < 1) : x = 0 := by
  rw [← abs_mul] at h
  exact (mul_eq_zero.mp (eq_zero_of_mem_integers hx h)).resolve_left
    (Int.cast_ne_zero.mpr hD)

namespace Tableau

variable {s t : Tableau Rat} {v : Nat → Rat} {D : Int} {column : Nat}

/-! ## Denominators of a tableau -/

/-- A solution with integers outside the basis. -/
structure IntegralOutside (s : Tableau Rat) (v : Nat → Rat) : Prop where
  /-- The rows hold. -/
  solves : s.Solves v
  /-- Variables outside the basis are integers. -/
  outside : ∀ j, j ∉ s.basics → v j ∈ integers

theorem Canonical.integralOutside_valueAt (hs : s.Canonical) :
    s.IntegralOutside s.valueAt where
  solves := hs.solves_valueAt
  outside _ hj := valueAt_of_notMem hj ▸ integers.zero_mem

theorem Canonical.integralOutside_along (hs : s.Canonical) (column : Nat) :
    s.IntegralOutside (s.along column 1) where
  solves := hs.solves_along column 1
  outside j hj := by
    rw [along_of_notMem hj]
    split
    · exact integers.one_mem
    · exact integers.zero_mem

/-- **A common denominator of a tableau**: solutions with integers outside the basis are
multiples of its inverse. -/
structure Denominates (D : Int) (s : Tableau Rat) : Prop where
  /-- It is not zero. -/
  ne_zero : D ≠ 0
  /-- It turns solutions into integers. -/
  mul_mem : ∀ v, s.IntegralOutside v → ∀ j, D * v j ∈ integers

/-- The shortfall of a solution with integers outside the basis is a multiple of the
inverse as well. -/
theorem Denominates.shortfallAt (hD : Denominates D s) (hv : s.IntegralOutside v) :
    D * t.shortfallAt v ∈ integers := by
  rw [Tableau.shortfallAt, Finset.mul_sum]
  exact sum_mem fun j _ => hD.mul_mem v hv _

section Canonical

variable (hs : s.Canonical) (hD : Denominates D s)

include hs hD

theorem Denominates.rhs {row : Row Rat} (hrow : row ∈ s.rows) : D * row.rhs ∈ integers :=
  hs.valueAt_basic hrow ▸ hD.mul_mem _ hs.integralOutside_valueAt row.basic

theorem Denominates.coeff {row : Row Rat} (hrow : row ∈ s.rows) (column : Nat) :
    D * row.coeff column ∈ integers := by
  by_cases hc : column ∈ s.basics
  · -- a basic column is a unit vector
    obtain ⟨other, hother, rfl⟩ := List.mem_map.mp hc
    obtain ⟨i, hi⟩ := List.mem_iff_getElem?.mp hrow
    obtain ⟨j, hj⟩ := List.mem_iff_getElem?.mp hother
    rw [hs.unit hi hj]
    split
    · exact integers.mul_mem (intCast_mem_integers D) integers.one_mem
    · exact integers.mul_mem (intCast_mem_integers D) integers.zero_mem
  · have halong := hD.mul_mem _ (hs.integralOutside_along column) row.basic
    rw [hs.along_basic hrow hc, one_mul, mul_sub] at halong
    have hsub := integers.sub_mem (hD.rhs hs hrow) halong
    rwa [sub_sub_cancel] at hsub

theorem Denominates.value (ht : t.Canonical) (he : t.withShortfall.Equivalent s) :
    D * s.value ∈ integers := by
  rw [← hs.residual_price_valueAt, he.residual_price ht hs.solves_valueAt, mul_neg]
  exact integers.neg_mem (hD.shortfallAt hs.integralOutside_valueAt)

theorem Denominates.price (ht : t.Canonical) (he : t.withShortfall.Equivalent s)
    (column : Nat) :
    D * s.price.coeff column ∈ integers := by
  have hprice : s.price.coeff column = s.value + t.shortfallAt (s.along column 1) := by
    have halong := hs.residual_price_along column 1
    rw [he.residual_price ht (hs.solves_along column 1), one_mul] at halong
    linarith
  rw [hprice, mul_add]
  exact integers.add_mem (hD.value hs ht he)
    (hD.shortfallAt (hs.integralOutside_along column))

end Canonical

/-- What a fraction is not, if its denominator is small for the tolerance. -/
theorem Denominates.eq_zero (hD : Denominates D s) {bound : Nat} (hle : |D| ≤ bound)
    {tolerance : Rat} (hbound : bound * tolerance < 1) {x : Rat} (hx : D * x ∈ integers)
    (h : |x| ≤ tolerance) : x = 0 := by
  refine eq_zero_of_mul_mem_integers hD.ne_zero hx (lt_of_le_of_lt ?_ hbound)
  have hle' : |(D : Rat)| ≤ bound := by exact_mod_cast hle
  gcongr

/-- A ratio is the right-hand side that a pivot would turn it into. -/
theorem Canonical.valueAt_pivot (hs : s.Canonical) {i : Nat} {row : Row Rat}
    (hrow : s.rows[i]? = some row) (h : row.coeff column ≠ 0) :
    (s.pivot ⟨i, column⟩).valueAt column = row.rhs / row.coeff column := by
  have hnew : (s.pivot ⟨i, column⟩).rows[i]? = some ⟨pivotRow row column, column⟩ := by
    have hcell : s.rows[(⟨i, column⟩ : Cell).row]? = some row := hrow
    rw [getElem?_pivot hcell, hrow, Option.map_some, if_pos rfl]
  exact (hs.pivot ⟨row, hrow, h⟩).valueAt_basic (List.mem_of_getElem? hnew)

end Tableau

namespace Program

/-! ## Forms that determine the point -/

/-- **A program on the grid of `1 / d`**: the numbers of its constraints are multiples
of `1 / d`, and the coefficients are at most `m` of them in magnitude. -/
structure OnGrid (p : Program Rat) (d m : Nat) : Prop where
  /-- The grid has a unit. -/
  unit_pos : 0 < d
  /-- The bound leaves room for the axes. -/
  one_le : 1 ≤ m
  /-- The numbers of each constraint are on the grid. -/
  isInt : ∀ c ∈ p.constraints,
    (d * c.form.a).isInt ∧ (d * c.form.b).isInt ∧ (d * c.bound).isInt
  /-- Coefficients are bounded. -/
  le : ∀ c ∈ p.constraints, |d * c.form.a| ≤ m ∧ |d * c.form.b| ≤ m

theorem onGrid_iff {p : Program Rat} {d m : Nat} : p.OnGrid d m ↔ 0 < d ∧ 1 ≤ m ∧
    (∀ c ∈ p.constraints,
      (d * c.form.a).isInt ∧ (d * c.form.b).isInt ∧ (d * c.bound).isInt) ∧
    ∀ c ∈ p.constraints, |d * c.form.a| ≤ m ∧ |d * c.form.b| ≤ m :=
  ⟨fun h => ⟨h.unit_pos, h.one_le, h.isInt, h.le⟩,
    fun h => ⟨h.1, h.2.1, h.2.2.1, h.2.2.2⟩⟩

instance (p : Program Rat) (d m : Nat) : Decidable (p.OnGrid d m) :=
  decidable_of_iff' _ onGrid_iff

variable {p : Program Rat} {d m i : Nat} {c : Constraint Rat} {s : Tableau Rat}

/-- A constraint on the grid, counted in units. -/
theorem OnGrid.exists_int (grid : p.OnGrid d m) (hc : c ∈ p.constraints) : ∃ a b n : Int,
    d * c.form.a = a ∧ d * c.form.b = b ∧ d * c.bound = n ∧ |a| ≤ m ∧ |b| ≤ m := by
  obtain ⟨ha, hb, hn⟩ := grid.isInt c hc
  obtain ⟨hle, hle'⟩ := grid.le c hc
  rw [Rat.eq_num_of_isInt ha] at hle
  rw [Rat.eq_num_of_isInt hb] at hle'
  exact ⟨_, _, _, Rat.eq_num_of_isInt ha, Rat.eq_num_of_isInt hb, Rat.eq_num_of_isInt hn,
    by exact_mod_cast hle, by exact_mod_cast hle'⟩

/-- The slack of a point inherits its denominator, up to the unit of the grid. -/
theorem OnGrid.mul_slack_mem (grid : p.OnGrid d m) (hc : c ∈ p.constraints) {D : Int}
    {q : Point Rat}
    (hx : D * q.x ∈ integers) (hy : D * q.y ∈ integers) :
    (d : Rat) * (D * c.slack q) ∈ integers := by
  obtain ⟨a, b, n, ha, hb, hn, _, _⟩ := grid.exists_int hc
  rw [show (d : Rat) * (D * c.slack q) = D * n - (a * (D * q.x) + b * (D * q.y)) by
    rw [Constraint.slack, LinearForm.value, ← ha, ← hb, ← hn]
    ring]
  exact integers.sub_mem
    (integers.mul_mem (intCast_mem_integers D) (intCast_mem_integers n))
    (integers.add_mem (integers.mul_mem (intCast_mem_integers a) hx)
      (integers.mul_mem (intCast_mem_integers b) hy))

/-- A form with bounded integer coefficients that is an integer wherever the variables
outside the basis are. -/
structure Pinned (s : Tableau Rat) (m : Nat) (a b : Int) : Prop where
  /-- The first coefficient is bounded. -/
  le_fst : |a| ≤ m
  /-- So is the second. -/
  le_snd : |b| ≤ m
  /-- The form is an integer. -/
  integral : ∀ v, s.IntegralOutside v → a * v 0 + b * v 1 ∈ integers

theorem pinned_x (hm : 1 ≤ m) (h : 0 ∉ s.basics) : Pinned s m 1 0 where
  le_fst := by simpa using hm
  le_snd := by simp
  integral v hv := by simpa using hv.outside 0 h

theorem pinned_y (hm : 1 ≤ m) (h : 1 ∉ s.basics) : Pinned s m 0 1 where
  le_fst := by simp
  le_snd := by simpa using hm
  integral v hv := by simpa using hv.outside 1 h

section Basis

variable (grid : p.OnGrid d m) (hs : s.Canonical)
  (he : ∀ v, s.Solves v ↔ p.tableau.Solves v)

include grid he

/-- The form of a constraint of which neither variable is basic. -/
theorem pinned_tight (hc : p.constraints[i]? = some c) (hslack : 2 + i ∉ s.basics)
    (hartificial : c.bound < 0 → p.artificial i ∉ s.basics) :
    ∃ a b : Int, Pinned s m a b ∧ d * c.form.a = a ∧ d * c.form.b = b := by
  obtain ⟨a, b, n, ha, hb, hn, hle, hle'⟩ := grid.exists_int (List.mem_of_getElem? hc)
  refine ⟨a, b, ⟨hle, hle', fun v hv => ?_⟩, ha, hb⟩
  have hrow := solves_tableau_iff.mp ((he v).mp hv.solves) i c hc
  have hexcess : (if c.bound < 0 then v (p.artificial i) else 0) ∈ integers := by
    split
    · next hneg => exact hv.outside _ (hartificial hneg)
    · exact integers.zero_mem
  have hform : (a : Rat) * v 0 + b * v 1
      = n - d * v (2 + i) + d * (if c.bound < 0 then v (p.artificial i) else 0) := by
    rw [hrow, Constraint.slack, LinearForm.value, ← ha, ← hb, ← hn]
    ring
  rw [hform]
  exact integers.add_mem (integers.sub_mem (intCast_mem_integers n)
    (integers.mul_mem (natCast_mem _ d) (hv.outside _ hslack)))
    (integers.mul_mem (natCast_mem _ d) hexcess)

include hs

/-- **In every direction of the plane some pinned form changes.** -/
theorem exists_pinned {u : Point Rat} (hu : u.x ≠ 0 ∨ u.y ≠ 0) :
    ∃ a b : Int, Pinned s m a b ∧ (a : Rat) * u.x + b * u.y ≠ 0 := by
  by_contra hnone
  have hall : ∀ a b : Int, Pinned s m a b → (a : Rat) * u.x + b * u.y = 0 :=
    fun a b hab =>
    by_contra fun hne => hnone ⟨a, b, hab, hne⟩
  have htight : ∀ {i c}, p.constraints[i]? = some c → 2 + i ∉ s.basics →
      (c.bound < 0 → p.artificial i ∉ s.basics) → c.form.value u = 0 := by
    intro i c hc hslack hartificial
    obtain ⟨a, b, hab, ha, hb⟩ := pinned_tight grid he hc hslack hartificial
    have hzero := hall a b hab
    rw [← ha, ← hb, mul_assoc, mul_assoc, ← mul_add] at hzero
    exact (mul_eq_zero.mp hzero).resolve_left (Nat.cast_ne_zero.mpr grid.unit_pos.ne')
  -- where the slack variable is still, the artificial variable follows the form
  have hstill : p.Still s u (fun i => if 2 + i ∈ s.basics then 0
      else p.constraints[i]?.elim 0 fun c => c.form.value u) fun _ => 0 :=
    { x := fun h => by simpa using hall 1 0 (pinned_x grid.one_le h)
      y := fun h => by simpa using hall 0 1 (pinned_y grid.one_le h)
      slack := fun {i c} hc hslack => by
        rw [if_neg hslack, hc]
        split
        · rfl
        · next hneg => exact htight hc hslack fun h => absurd h hneg
      artificial := fun {i c} hc _ hartificial => by
        split
        · rfl
        · next hslack =>
          rw [hc]
          exact htight hc hslack fun _ => hartificial
      spare := fun _ _ => rfl }
  obtain ⟨hx, hy, _⟩ := hstill.eq_zero hs he
  exact hu.elim (· hx) (· hy)

/-- **Two pinned forms determine the point**, with their determinant for a denominator. -/
theorem exists_determinant : ∃ D : Int, D ≠ 0 ∧ |D| ≤ 2 * m ^ 2 ∧
    ∀ v, s.IntegralOutside v → D * v 0 ∈ integers ∧ D * v 1 ∈ integers := by
  obtain ⟨a, b, hab, hne⟩ := exists_pinned grid hs he (u := ⟨1, 0⟩) (.inl one_ne_zero)
  have ha : (a : Rat) ≠ 0 := by simpa using hne
  obtain ⟨a', b', hab', hdet⟩ := exists_pinned grid hs he (u := ⟨-b, a⟩) (.inr ha)
  refine ⟨a * b' - b * a', fun hzero => hdet ?_, ?_, fun v hv => ?_⟩
  · have hzero' : (a : Rat) * b' - b * a' = 0 := by exact_mod_cast hzero
    show (a' : Rat) * -b + b' * a = 0
    linarith
  · calc |a * b' - b * a'| ≤ |a * b'| + |b * a'| := abs_sub _ _
      _ = |a| * |b'| + |b| * |a'| := by rw [abs_mul, abs_mul]
      _ ≤ m * m + m * m := by
        have := hab.le_fst
        have := hab.le_snd
        have := hab'.le_fst
        have := hab'.le_snd
        gcongr
      _ = 2 * m ^ 2 := by ring
  · have hform := hab.integral v hv
    have hform' := hab'.integral v hv
    push_cast
    constructor
    · rw [show ((a : Rat) * b' - b * a') * v 0
        = b' * (a * v 0 + b * v 1) - b * (a' * v 0 + b' * v 1) by ring]
      exact integers.sub_mem (integers.mul_mem (intCast_mem_integers b') hform)
        (integers.mul_mem (intCast_mem_integers b) hform')
    · rw [show ((a : Rat) * b' - b * a') * v 1
        = a * (a' * v 0 + b' * v 1) - a' * (a * v 0 + b * v 1) by ring]
      exact integers.sub_mem (integers.mul_mem (intCast_mem_integers a) hform')
        (integers.mul_mem (intCast_mem_integers a') hform)

/-- **The point determines the other variables**, and passes its denominator on to
them. -/
theorem OnGrid.mul_mem {v : Nat → Rat} (hv : s.IntegralOutside v) {D : Int}
    (hx : D * v 0 ∈ integers) (hy : D * v 1 ∈ integers) (j : Nat) :
    (d : Rat) * (D * v j) ∈ integers := by
  have hmul : ∀ {x : Rat}, x ∈ integers → (d : Rat) * (D * x) ∈ integers := fun hx =>
    integers.mul_mem (natCast_mem _ d) (integers.mul_mem (intCast_mem_integers D) hx)
  have hslack : ∀ {i : Nat} {c : Constraint Rat}, p.constraints[i]? = some c →
      (d : Rat) * (D * c.slack ⟨v 0, v 1⟩) ∈ integers := fun hc =>
    grid.mul_slack_mem (List.mem_of_getElem? hc) hx hy
  by_cases hj : j ∈ s.basics
  · -- of a constraint only one variable is basic, and the other one is an integer
    cases p.kind j with
    | x => exact integers.mul_mem (natCast_mem _ d) hx
    | y => exact integers.mul_mem (natCast_mem _ d) hy
    | slack hc =>
      rw [solves_tableau_iff.mp ((he v).mp hv.solves) _ _ hc, mul_add, mul_add]
      refine integers.add_mem (hslack hc) (hmul ?_)
      split
      · next hneg =>
        exact hv.outside _
          ((slack_or_artificial hs he hc hneg).resolve_left (not_not.mpr hj))
      · exact integers.zero_mem
    | artificial hc hneg =>
      have hrow := solves_tableau_iff.mp ((he v).mp hv.solves) _ _ hc
      rw [if_pos hneg] at hrow
      rw [eq_sub_of_add_eq' hrow.symm, mul_sub, mul_sub]
      refine integers.sub_mem (hmul (hv.outside _ ?_)) (hslack hc)
      exact (slack_or_artificial hs he hc hneg).resolve_right (not_not.mpr hj)
    | spare h => exact absurd h (not_spare hs he hj)
  · exact hmul (hv.outside j hj)

/-- **A canonical tableau of a program on a grid has a bounded common denominator.** -/
theorem exists_denominator :
    ∃ D : Int, Tableau.Denominates D s ∧ |D| ≤ (2 * d * m ^ 2 : Nat) := by
  obtain ⟨D, hD, hle, hpoint⟩ := exists_determinant grid hs he
  refine ⟨d * D, ⟨mul_ne_zero (Int.natCast_ne_zero.mpr grid.unit_pos.ne') hD,
    fun v hv j => ?_⟩, ?_⟩
  · obtain ⟨hx, hy⟩ := hpoint v hv
    rw [Int.cast_mul, Int.cast_natCast, mul_assoc]
    exact grid.mul_mem hs he hv hx hy j
  · rw [abs_mul, Nat.abs_cast]
    push_cast
    calc (d : Int) * |D| ≤ d * (2 * m ^ 2) := by gcongr
      _ = 2 * d * m ^ 2 := by ring

/-! ## Sharpness -/

variable {tolerance : Rat} (h0 : 0 ≤ tolerance)
  (hsmall : ((2 * d * m ^ 2 : Nat) : Rat) ^ 2 * tolerance < 1)

include h0 hsmall

omit hs he in
/-- Denominators are at least one, so a tolerance that is small for their squares is
small for them. -/
theorem OnGrid.mul_lt_one : ((2 * d * m ^ 2 : Nat) : Rat) * tolerance < 1 := by
  have hone : 1 ≤ 2 * d * m ^ 2 :=
    Nat.mul_pos (Nat.mul_pos Nat.two_pos grid.unit_pos) (Nat.pow_pos grid.one_le)
  refine lt_of_le_of_lt ?_ hsmall
  have hone' : (1 : Rat) ≤ (2 * d * m ^ 2 : Nat) := by exact_mod_cast hone
  exact mul_le_mul_of_nonneg_right (le_self_pow₀ hone' two_ne_zero) h0

omit h0 in
/-- **Ratios of a tableau of a program on a grid are equal or apart.** -/
theorem OnGrid.ratio_eq {row other : Row Rat} (hrow : row ∈ s.rows)
    (hother : other ∈ s.rows)
    {column : Nat} (hpos : 0 < row.coeff column) (hpos' : 0 < other.coeff column)
    (h : |row.rhs / row.coeff column - other.rhs / other.coeff column| ≤ tolerance) :
    row.rhs / row.coeff column = other.rhs / other.coeff column := by
  have hratio : ∀ {row : Row Rat}, row ∈ s.rows → 0 < row.coeff column →
      ∃ D : Int, D ≠ 0 ∧ |D| ≤ (2 * d * m ^ 2 : Nat) ∧
        D * (row.rhs / row.coeff column) ∈ integers := by
    intro row hrow hpos
    obtain ⟨i, hi⟩ := List.mem_iff_getElem?.mp hrow
    have hpivotal : s.Pivotal ⟨i, column⟩ := ⟨row, hi, hpos.ne'⟩
    obtain ⟨D, hD, hle⟩ := exists_denominator grid (hs.pivot hpivotal)
      fun v => (hs.solves_pivot_iff hpivotal v).trans (he v)
    refine ⟨D, hD.ne_zero, hle, ?_⟩
    rw [← hs.valueAt_pivot hi hpos.ne']
    exact hD.mul_mem _ (hs.pivot hpivotal).integralOutside_valueAt column
  obtain ⟨D, hD, hle, hmem⟩ := hratio hrow hpos
  obtain ⟨D', hD', hle', hmem'⟩ := hratio hother hpos'
  refine sub_eq_zero.mp (eq_zero_of_mul_mem_integers (mul_ne_zero hD hD') ?_
    (lt_of_le_of_lt ?_ hsmall))
  · rw [Int.cast_mul,
      show (D : Rat) * D' * (row.rhs / row.coeff column - other.rhs / other.coeff column)
      = D' * (D * (row.rhs / row.coeff column)) - D
        * (D' * (other.rhs / other.coeff column)) by ring]
    exact integers.sub_mem (integers.mul_mem (intCast_mem_integers D') hmem)
      (integers.mul_mem (intCast_mem_integers D) hmem')
  · have hle₁ : |(D : Rat)| ≤ (2 * d * m ^ 2 : Nat) := by exact_mod_cast hle
    have hle₂ : |(D' : Rat)| ≤ (2 * d * m ^ 2 : Nat) := by exact_mod_cast hle'
    rw [Int.cast_mul, abs_mul, pow_two]
    gcongr

/-- **The tableaux of a program on a grid are sharp.** -/
theorem OnGrid.sharp : s.Sharp tolerance where
  entries row hrow column hle := by
    obtain ⟨D, hD, hbound⟩ := exists_denominator grid hs he
    exact hD.eq_zero hbound (grid.mul_lt_one h0 hsmall) (hD.coeff hs hrow column) hle
  ratios column row hrow other hother hpos hpos' hle :=
    grid.ratio_eq hs he hsmall hrow hother hpos hpos' hle

end Basis

section Run

variable (grid : p.OnGrid d m) {o : Options Rat} (h0 : 0 ≤ o.tolerance)
  (hsmall : ((2 * d * m ^ 2 : Nat) : Rat) ^ 2 * o.tolerance < 1)

include grid h0 hsmall

/-- **The tolerance blurs no run of a program on a grid**, nor the prices of its
shortfall. -/
theorem OnGrid.sharpRun : p.tableau.SharpRun o ∧
    (p.tableau.repairPhase o).tableau.price.Sharp o.tolerance := by
  have hfit := Tableau.fit_of_ofDense? p.ofDense?_tableau
  obtain ⟨hcan, he⟩ := Tableau.canonical_repairPhase hfit.toCanonical h0
  obtain ⟨D, hD, hbound⟩ := exists_denominator grid hcan he.solves_iff
  have hzero := fun x => hD.eq_zero hbound (grid.mul_lt_one h0 hsmall) (x := x)
  refine ⟨⟨?_, fun hshort => ?_⟩, fun column hle => ?_⟩
  · have hrun := (p.tableau.follows_optimize h0).throughout
      (P := fun s => s.Canonical ∧ ∀ v, s.Solves v ↔ p.tableau.Solves v)
      (fun s cell hs hc =>
        ⟨hs.1.pivot hc, fun v => (hs.1.solves_pivot_iff hc v).trans (hs.2 v)⟩)
      ⟨hfit.toCanonical, fun _ => Iff.rfl⟩
    exact hrun.imp fun s hs => grid.sharp hs.1 hs.2 h0 hsmall
  · by_contra hpos
    rw [not_le] at hpos
    have hvalue := hzero (p.tableau.repairPhase o).tableau.value
      (hD.value hcan hfit.toCanonical he) (by rwa [← abs_neg, abs_of_pos hpos])
    rw [hvalue, neg_zero] at hpos
    exact lt_irrefl 0 hpos
  · exact hzero _ (hD.price hcan hfit.toCanonical he column) hle

end Run

end Program

end LatticeLP

import Mathlib.Data.Int.ConditionallyCompleteOrder
import Mathlib.Data.Rat.Floor
import Mathlib.Tactic.Linarith
import Mathlib.Tactic.NormNum
import Mathlib.Tactic.Positivity
import Mathlib.Tactic.Ring
import LatticeLP.Lattice.Key
import LatticeLP.Scalar.Rational

/-!
# Keys of rational points

In exact arithmetic the key of a point is what it is meant to be: each coordinate times
a power of ten, and the nearest integer to that with halves going away from zero
(`RoundsTo`). Three things are in the way. Powers are computed by squaring; rounding
treats the two signs apart; and coordinates are kept within 64 bits, so that all this is
true only of points in range (`ofPoint_of_inRange`).

That a number rounds to one integer only needs an argument, since the rule for halves
does not say which of the two nearest integers is meant, but only that it is further
from zero than the number (`RoundsTo.le`). From then on rounding is the relation
`RoundsTo` (`roundRational_eq_iff`): opposite numbers round to opposite integers because
the rule does not prefer a sign, and rounding keeps the order because the relation does.
-/

namespace LatticeLP

/-! ## Powers -/

namespace Scalar

/-- **Squaring and multiplying computes the power**, if there are digits enough for the
exponent. -/
theorem powerBySquaring_rational {digits n : Nat} (h : n < 2 ^ digits) (acc base : Rat) :
    powerBySquaring digits acc base n = acc * base ^ n := by
  induction digits generalizing acc base n with
  | zero =>
    obtain rfl : n = 0 := by simpa using h
    rw [powerBySquaring, pow_zero, mul_one]
  | succ digits ih =>
    -- the lowest digit goes into the accumulator, the others into a power of the square
    have hhalf : n / 2 < 2 ^ digits :=
      Nat.div_lt_of_lt_mul (by rwa [pow_succ, mul_comm] at h)
    have hpow : base ^ n = base ^ (n % 2) * (base * base) ^ (n / 2) := by
      rw [← pow_two, ← pow_mul, ← pow_add, Nat.mod_add_div]
    have hacc : (if n % 2 = 1 then acc * base else acc) = acc * base ^ (n % 2) := by
      rcases Nat.mod_two_eq_zero_or_one n with hn | hn <;> simp [hn]
    simp only [powerBySquaring]
    split
    · next hzero => rw [hpow, hzero, pow_zero, mul_one, hacc]
    · rw [ih hhalf, hpow, ← mul_assoc, hacc]

/-- **A power with an integer exponent is the power.** -/
theorem power_rational (base : Rat) (n : Int) : power base n = base ^ n := by
  have hmagnitude : powerBySquaring (n.natAbs.log2 + 1) 1 base n.natAbs
      = base ^ n.natAbs := by
    rw [powerBySquaring_rational Nat.lt_log2_self, one_mul]
  simp only [power, hmagnitude]
  split
  · next hneg =>
    rw [one_div, ← zpow_natCast, ← zpow_neg, Int.ofNat_natAbs_of_nonpos hneg.le, neg_neg]
  · next hnonneg =>
    rw [← zpow_natCast, Int.natAbs_of_nonneg (not_lt.mp hnonneg)]

end Scalar

/-! ## Rounding -/

/-- **A number rounds to an integer**: no integer is nearer, and of two that are equally
near it is the one further from zero. -/
structure RoundsTo (x : Rat) (n : Int) : Prop where
  /-- No integer is nearer. -/
  near : |(n : Rat) - x| ≤ 1 / 2
  /-- A half goes away from zero. -/
  away : |(n : Rat) - x| = 1 / 2 → |x| < |(n : Rat)|

/-- Rounding up from a half does so for numbers that are not negative. -/
theorem roundsTo_floor {x : Rat} (hx : 0 ≤ x) : RoundsTo x (x + 1 / 2).floor := by
  have hle : ((x + 1 / 2).floor : Rat) ≤ x + 1 / 2 := Int.floor_le _
  have hlt : x + 1 / 2 < (x + 1 / 2).floor + 1 := Int.lt_floor_add_one _
  refine ⟨abs_le.mpr ⟨by linarith, by linarith⟩, fun hhalf => ?_⟩
  have hup : ((x + 1 / 2).floor : Rat) = x + 1 / 2 := by
    rcases abs_choice (((x + 1 / 2).floor : Rat) - x) with h | h <;> linarith
  rw [hup, abs_of_nonneg hx, abs_of_nonneg (by linarith)]
  linarith

/-- Rounding does not prefer a sign. -/
theorem RoundsTo.neg {x : Rat} {n : Int} (h : RoundsTo x n) : RoundsTo (-x) (-n) := by
  have hdist : |((-n : Int) : Rat) - -x| = |(n : Rat) - x| := by
    rw [Int.cast_neg, ← abs_neg, neg_sub', neg_neg, neg_neg]
  refine ⟨hdist.trans_le h.near, fun hhalf => ?_⟩
  rw [abs_neg, Int.cast_neg, abs_neg]
  exact h.away (hdist ▸ hhalf)

/-- **Rounding a rational is rounding to the nearest, halves away from zero.** -/
theorem roundsTo_roundRational (x : Rat) : RoundsTo x (roundRational x) := by
  unfold roundRational
  split
  · next hx =>
    have h := (roundsTo_floor (neg_nonneg.mpr hx.le)).neg
    rwa [neg_neg] at h
  · next hx => exact roundsTo_floor (not_lt.mp hx)

/-- An integer rounds to itself. -/
theorem RoundsTo.refl (n : Int) : RoundsTo n n where
  near := by norm_num
  away h := by norm_num at h

/-- **Larger numbers round to larger integers.** Two integers in the wrong order would
be the two that are equally near to one number, and that half goes only one way. -/
theorem RoundsTo.le {x y : Rat} {m n : Int} (hm : RoundsTo x m) (hn : RoundsTo y n)
    (hxy : x ≤ y) :
    m ≤ n := by
  by_contra hlt
  have hnext : (n : Rat) + 1 ≤ m := by exact_mod_cast not_le.mp hlt
  obtain ⟨-, hmx⟩ := abs_le.mp hm.near
  obtain ⟨hny, -⟩ := abs_le.mp hn.near
  obtain rfl : x = y := by linarith
  have hup : (m : Rat) = x + 1 / 2 := by linarith
  have hdown : (n : Rat) = x - 1 / 2 := by linarith
  -- both are further from zero than `x`, so `x` is within a quarter of zero, and
  -- `x - 1 / 2` no integer
  have habove : x ^ 2 < (x + 1 / 2) ^ 2 := by
    rw [sq_lt_sq, ← hup]
    exact hm.away (by rw [hup, add_sub_cancel_left, abs_of_pos one_half_pos])
  have hbelow : x ^ 2 < (x - 1 / 2) ^ 2 := by
    rw [sq_lt_sq, ← hdown]
    exact hn.away (by rw [hdown, sub_sub_cancel_left, abs_neg, abs_of_pos one_half_pos])
  have hlow : ((-1 : Int) : Rat) < n := by
    push_cast
    linarith
  have hhigh : (n : Rat) < (0 : Int) := by
    push_cast
    linarith
  rw [Int.cast_lt] at hlow hhigh
  omega

/-- **A number rounds to one integer only.** -/
theorem RoundsTo.unique {x : Rat} {m n : Int} (hm : RoundsTo x m) (hn : RoundsTo x n) :
    m = n :=
  le_antisymm (hm.le hn le_rfl) (hn.le hm le_rfl)

/-- **No integer is nearer** than the one to which a number rounds. -/
theorem RoundsTo.nearest {x : Rat} {n : Int} (h : RoundsTo x n) (m : Int) :
    |(n : Rat) - x| ≤ |(m : Rat) - x| := by
  rcases eq_or_ne n m with rfl | hne
  · exact le_rfl
  · have hapart : (1 : Rat) ≤ |(n : Rat) - m| := by
      exact_mod_cast Int.one_le_abs (sub_ne_zero.mpr hne)
    have htriangle := abs_sub_le (n : Rat) x m
    rw [abs_sub_comm x] at htriangle
    linarith [h.near]

/-- **The rounded number is the integer that the number rounds to.** -/
theorem roundRational_eq_iff {x : Rat} {n : Int} : roundRational x = n ↔ RoundsTo x n :=
  ⟨fun h => h ▸ roundsTo_roundRational x, (roundsTo_roundRational x).unique⟩

/-- **A rounded number is within a half of the number.** -/
theorem abs_roundRational_sub_le (x : Rat) : |(roundRational x : Rat) - x| ≤ 1 / 2 :=
  (roundsTo_roundRational x).near

/-- A rounded integer is the integer. -/
theorem roundRational_intCast (n : Int) : roundRational n = n :=
  roundRational_eq_iff.mpr (.refl n)

@[simp] theorem roundRational_zero : roundRational 0 = 0 :=
  roundRational_intCast 0

/-- **Opposite numbers round to opposite integers.** -/
theorem roundRational_neg (x : Rat) : roundRational (-x) = -roundRational x :=
  roundRational_eq_iff.mpr (roundsTo_roundRational x).neg

/-- **Rounding keeps the order.** -/
theorem roundRational_mono : Monotone roundRational := fun x y hxy =>
  (roundsTo_roundRational x).le (roundsTo_roundRational y) hxy

/-- Rounding does not make a number negative. -/
theorem roundRational_nonneg {x : Rat} (hx : 0 ≤ x) : 0 ≤ roundRational x :=
  roundRational_zero ▸ roundRational_mono hx

/-- Numbers that are not negative are rounded up from a half. -/
theorem roundRational_of_nonneg {x : Rat} (hx : 0 ≤ x) : roundRational x = ⌊x + 1 / 2⌋ :=
  if_neg (not_lt.mpr hx)

namespace Key

/-! ## Coordinates in range -/

/-- The range in which scaled coordinates are kept as they are, by a good margin. -/
def InRange (x : Rat) : Prop :=
  |x| ≤ 0x20000000000000

/-- A coordinate within a bound is in range if the bound is, in units of the last
digit. -/
theorem InRange.of_abs_le {x bound unit : Rat} (hunit : 0 < unit) (hx : |x| ≤ bound)
    (hbound : bound * unit ≤ 0x20000000000000) : InRange (x * unit) := by
  rw [InRange, abs_mul, abs_of_pos hunit]
  exact (mul_le_mul_of_nonneg_right hx hunit.le).trans hbound

/-- **A coordinate in range is the nearest integer.** -/
theorem coordinate_of_inRange {x : Rat} (h : InRange x) :
    coordinate x = roundRational x := by
  have hround := abs_le.mp (abs_roundRational_sub_le x)
  have hx := abs_le.mp h
  have hlow : (least : Rat) ≤ roundRational x := by
    norm_num [least]
    linarith
  have hhigh : (roundRational x : Rat) ≤ greatest := by
    norm_num [greatest]
    linarith
  have hcoordinate : coordinate x = max least (min (roundRational x) greatest) := rfl
  rw [hcoordinate, min_eq_left (Int.cast_le.mp hhigh), max_eq_right (Int.cast_le.mp hlow)]

/-- Cutting coordinates off at the ends of the range keeps their order. -/
theorem coordinate_mono : Monotone (coordinate : Rat → Int) := fun _ _ h =>
  max_le_max_left least (min_le_min_right greatest (roundRational_mono h))

/-- **The scale of keys is a power of ten.** -/
theorem scale_rational {precision : Nat} (h : precision < 0x80000000) :
    (scale precision : Rat) = 10 ^ precision := by
  have hbmod : Int.bmod precision 0x100000000 = precision := by
    rw [Int.bmod_eq_of_le] <;> omega
  have hten : (10.0 : Rat) = 10 := by norm_num
  show Scalar.power (10.0 : Rat) (Int.bmod precision 0x100000000) = _
  rw [hbmod, Scalar.power_rational, hten, zpow_natCast]

variable {precision : Nat} {p : Point Rat}

/-- The key of a point, coordinate by coordinate. -/
theorem ofPoint_eq (hprecision : precision < 0x80000000) (p : Point Rat) :
    ofPoint precision p
      = ⟨coordinate (p.x * 10 ^ precision), coordinate (p.y * 10 ^ precision),
        precision⟩ := by
  rw [ofPoint]
  simp only [scale_rational hprecision]

/-- **The key of a point in range is the rounded point.** -/
theorem ofPoint_of_inRange (hprecision : precision < 0x80000000)
    (hx : InRange (p.x * 10 ^ precision)) (hy : InRange (p.y * 10 ^ precision)) :
    ofPoint precision p
      = ⟨roundRational (p.x * 10 ^ precision), roundRational (p.y * 10 ^ precision),
        precision⟩ := by
  rw [ofPoint_eq hprecision, coordinate_of_inRange hx, coordinate_of_inRange hy]

/-- The point of a key, coordinate by coordinate. -/
theorem point_eq {k : Key} (h : k.precision < 0x80000000) :
    k.point = (⟨k.x / 10 ^ k.precision, k.y / 10 ^ k.precision⟩ : Point Rat) := by
  rw [point]
  simp only [scale_rational h]

end Key

end LatticeLP

import LatticeLP.Learner.Params
import LatticeLP.Proofs.Lattice.Rounding

/-!
# Keys are nearest grid points

The points that keys of a precision stand for form a decimal grid: their coordinates are
the **marks** at whole multiples of a unit of the last digit. A point in range has the
key of the grid point nearest to it, and of two equally near marks it is the one further
from zero (`NearestMark`). No other key of that precision has such a point, so this says
which key it is (`eq_ofPoint_iff`).

Encoding and decoding go through the same power of ten, which turns distances on the
grid into distances between a scaled number and an integer (`nearestMark_iff`). What is
known of rounding then carries over. A grid point is nearest to itself, so a key is
recovered from its point, and a point of the grid from its key; the nearest mark to an
opposite number is the opposite mark, so opposite points have opposite keys.

The order needs no range, since coordinates that are cut off keep theirs
(`ofPoint_x_le`, `ofPoint_y_le`).
-/

namespace LatticeLP

namespace Key

/-! ## Marks -/

/-- **The mark of the grid of a precision that is nearest to a number**, a half unit
going away from zero. -/
structure NearestMark (precision : Nat) (x mark : Rat) : Prop where
  /-- It is a whole number of units of the last digit. -/
  onGrid : ∃ n : Int, mark = n / 10 ^ precision
  /-- No mark is nearer. -/
  nearest : ∀ n : Int, |mark - x| ≤ |n / 10 ^ precision - x|
  /-- It is at most half a unit away. -/
  near : |mark - x| ≤ 1 / 2 * (10 ^ precision)⁻¹
  /-- A half unit goes away from zero. -/
  away : |mark - x| = 1 / 2 * (10 ^ precision)⁻¹ → |x| < |mark|

variable {precision : Nat} {x mark : Rat} {n : Int}

/-- The distance to a mark, in units of the last digit. -/
theorem abs_mark_sub (precision : Nat) (n : Int) (x : Rat) :
    |(n : Rat) / 10 ^ precision - x|
      = |(n : Rat) - x * 10 ^ precision| * (10 ^ precision)⁻¹ := by
  have hunit : (0 : Rat) < 10 ^ precision := by positivity
  rw [div_sub' hunit.ne', abs_div, abs_of_pos hunit, mul_comm x, div_eq_mul_inv]

/-- A number is nearer to zero than a mark if it is so in units of the last digit. -/
theorem abs_lt_abs_mark_iff :
    |x| < |(n : Rat) / 10 ^ precision| ↔ |x * 10 ^ precision| < |(n : Rat)| := by
  have hunit : (0 : Rat) < 10 ^ precision := by positivity
  rw [abs_div, abs_mul, abs_of_pos hunit, lt_div_iff₀ hunit]

/-- **The nearest mark is the integer that the scaled number rounds to**, in units of
the last digit. -/
theorem nearestMark_iff :
    NearestMark precision x (n / 10 ^ precision) ↔ RoundsTo (x * 10 ^ precision) n := by
  have hunit : (0 : Rat) < (10 ^ precision)⁻¹ := by positivity
  constructor
  · intro h
    refine ⟨?_, fun hhalf => abs_lt_abs_mark_iff.mp (h.away ?_)⟩
    · exact le_of_mul_le_mul_right (abs_mark_sub precision n x ▸ h.near) hunit
    · rw [abs_mark_sub, hhalf]
  · intro h
    refine ⟨⟨n, rfl⟩, fun m => ?_, ?_, fun hhalf => abs_lt_abs_mark_iff.mpr (h.away ?_)⟩
    · rw [abs_mark_sub, abs_mark_sub]
      exact mul_le_mul_of_nonneg_right (h.nearest m) hunit.le
    · rw [abs_mark_sub]
      exact mul_le_mul_of_nonneg_right h.near hunit.le
    · exact mul_right_cancel₀ hunit.ne' (abs_mark_sub precision n x ▸ hhalf)

/-- A mark is nearest to itself. -/
theorem nearestMark_self (precision : Nat) (n : Int) :
    NearestMark precision (n / 10 ^ precision) (n / 10 ^ precision) := by
  rw [nearestMark_iff, div_mul_cancel₀ _ (by positivity)]
  exact .refl n

/-- A number on the grid has no other nearest mark. -/
theorem NearestMark.eq_of_int (h : NearestMark precision x mark)
    (hint : ∃ n : Int, x * 10 ^ precision = n) :
    mark = x := by
  obtain ⟨n, hn⟩ := hint
  have hzero := h.nearest n
  rw [abs_mark_sub, hn, sub_self, abs_zero, zero_mul] at hzero
  exact sub_eq_zero.mp (abs_nonpos_iff.mp hzero)

/-! ## The nearest key -/

variable {p q : Point Rat} {k : Key}

/-- **The key of a point in range is the one whose point is nearest to it**, along both
axes. -/
theorem eq_ofPoint_iff (hprecision : precision < 0x80000000)
    (hx : InRange (p.x * 10 ^ precision)) (hy : InRange (p.y * 10 ^ precision)) :
    k = ofPoint precision p ↔
      k.precision = precision ∧ NearestMark precision p.x k.point.x ∧
        NearestMark precision p.y k.point.y := by
  rw [ofPoint_of_inRange hprecision hx hy]
  constructor
  · rintro rfl
    rw [point_eq hprecision]
    exact ⟨rfl, nearestMark_iff.mpr (roundsTo_roundRational _),
      nearestMark_iff.mpr (roundsTo_roundRational _)⟩
  · rintro ⟨rfl, hmx, hmy⟩
    rw [point_eq hprecision] at hmx hmy
    rw [roundRational_eq_iff.mpr (nearestMark_iff.mp hmx),
      roundRational_eq_iff.mpr (nearestMark_iff.mp hmy)]

/-- **The point of the key of a point in range is the nearest point of the grid.** -/
theorem nearest_point_ofPoint (hprecision : precision < 0x80000000)
    (hx : InRange (p.x * 10 ^ precision)) (hy : InRange (p.y * 10 ^ precision)) :
    NearestMark precision p.x (ofPoint precision p).point.x ∧
      NearestMark precision p.y (ofPoint precision p).point.y :=
  ((eq_ofPoint_iff hprecision hx hy).mp rfl).2

/-- **A point whose digits a key keeps is the point of its key.** -/
theorem point_ofPoint (hprecision : precision < 0x80000000)
    (hx : InRange (p.x * 10 ^ precision)) (hy : InRange (p.y * 10 ^ precision))
    (hintx : ∃ n : Int, p.x * 10 ^ precision = n)
    (hinty : ∃ n : Int, p.y * 10 ^ precision = n) : (ofPoint precision p).point = p := by
  obtain ⟨hmx, hmy⟩ := nearest_point_ofPoint hprecision hx hy
  rw [point_eq hprecision] at hmx hmy ⊢
  exact congrArg₂ Point.mk (hmx.eq_of_int hintx) (hmy.eq_of_int hinty)

/-- The point of a key is in the quadrant if a point it stands for is. -/
theorem point_ofPoint_nonneg (hprecision : precision < 0x80000000)
    (hx : InRange (p.x * 10 ^ precision)) (hy : InRange (p.y * 10 ^ precision))
    (hpx : 0 ≤ p.x) (hpy : 0 ≤ p.y) :
    (0 : Rat) ≤ (ofPoint precision p).point.x ∧
      (0 : Rat) ≤ (ofPoint precision p).point.y := by
  have hmark : ∀ {x : Rat}, 0 ≤ x →
    0 ≤ (roundRational (x * 10 ^ precision) : Rat) / 10 ^ precision := fun hx =>
    div_nonneg (Int.cast_nonneg (roundRational_nonneg (by positivity))) (by positivity)
  rw [ofPoint_of_inRange hprecision hx hy, point_eq hprecision]
  exact ⟨hmark hpx, hmark hpy⟩

/-- **A key in range is the key of its point.** -/
theorem ofPoint_point (hprecision : k.precision < 0x80000000) (hx : InRange k.x)
    (hy : InRange k.y) :
    ofPoint k.precision (k.point : Point Rat) = k := by
  have hunit : (10 : Rat) ^ k.precision ≠ 0 := by positivity
  rw [eq_comm, point_eq hprecision, eq_ofPoint_iff hprecision]
  · rw [point_eq hprecision]
    exact ⟨rfl, nearestMark_self _ _, nearestMark_self _ _⟩
  · rwa [div_mul_cancel₀ _ hunit]
  · rwa [div_mul_cancel₀ _ hunit]

/-- **Opposite points in range have opposite keys.** -/
theorem ofPoint_neg (hprecision : precision < 0x80000000)
    (hx : InRange (p.x * 10 ^ precision)) (hy : InRange (p.y * 10 ^ precision)) :
    ofPoint precision ⟨-p.x, -p.y⟩
      = ⟨-(ofPoint precision p).x, -(ofPoint precision p).y, precision⟩ := by
  have hneg : ∀ {x : Rat}, InRange (x * 10 ^ precision) → InRange (-x * 10 ^ precision) :=
    fun h => by rwa [InRange, neg_mul, abs_neg]
  rw [ofPoint_of_inRange (p := ⟨-p.x, -p.y⟩) hprecision (hneg hx) (hneg hy),
    ofPoint_of_inRange hprecision hx hy, neg_mul, neg_mul, roundRational_neg,
    roundRational_neg]

/-! ## Order -/

/-- Keys keep the order of the first coordinates. -/
theorem ofPoint_x_le (hprecision : precision < 0x80000000) (h : p.x ≤ q.x) :
    (ofPoint precision p).x ≤ (ofPoint precision q).x := by
  rw [ofPoint_eq hprecision, ofPoint_eq hprecision]
  exact coordinate_mono (by gcongr)

/-- Keys keep the order of the second coordinates. -/
theorem ofPoint_y_le (hprecision : precision < 0x80000000) (h : p.y ≤ q.y) :
    (ofPoint precision p).y ≤ (ofPoint precision q).y := by
  rw [ofPoint_eq hprecision, ofPoint_eq hprecision]
  exact coordinate_mono (by gcongr)

/-! ## Points and keys in range -/

/-- **Keys are nearest grid points.** At a precision that keys support, a point whose
scaled coordinates are below `2 ^ 53` in magnitude has the key whose point is nearest to
it, a half unit going away from zero, and the opposite point has the opposite key. A key
of that precision whose coordinates are no larger is the key of its point. And of two
points, in range or not, the one that is not further along an axis has no larger
coordinate in its key. -/
theorem ofPoint_nearest {precision : Nat} (h : precision ≤ Params.greatestPrecision) :
    (∀ p : Point Rat, |p.x * 10 ^ precision| < Params.keyRange →
      |p.y * 10 ^ precision| < Params.keyRange →
      NearestMark precision p.x (ofPoint precision p).point.x ∧
      NearestMark precision p.y (ofPoint precision p).point.y ∧
      ofPoint precision ⟨-p.x, -p.y⟩
        = ⟨-(ofPoint precision p).x, -(ofPoint precision p).y, precision⟩) ∧
    (∀ k : Key, k.precision = precision → |(k.x : Rat)| ≤ Params.keyRange →
      |(k.y : Rat)| ≤ Params.keyRange →
      ofPoint precision (k.point : Point Rat) = k) ∧
    ∀ p q : Point Rat, (p.x ≤ q.x → (ofPoint precision p).x ≤ (ofPoint precision q).x) ∧
      (p.y ≤ q.y → (ofPoint precision p).y ≤ (ofPoint precision q).y) := by
  have hprecision : precision < 0x80000000 := h.trans_lt (by decide)
  have hrange : (Params.keyRange : Rat) = 0x20000000000000 := rfl
  simp only [hrange]
  refine ⟨fun p hx hy => ?_, fun k hk hx hy => ?_, fun p q => ?_⟩
  · obtain ⟨hmarkx, hmarky⟩ := nearest_point_ofPoint hprecision hx.le hy.le
    exact ⟨hmarkx, hmarky, ofPoint_neg hprecision hx.le hy.le⟩
  · subst hk
    exact ofPoint_point hprecision hx hy
  · exact ⟨ofPoint_x_le hprecision, ofPoint_y_le hprecision⟩

/-- A point with a half unit along both axes, one at the end of the range and one next
to zero, at the greatest precision. -/
def brink : Point Rat :=
  ⟨(0x20000000000000 - 1 / 2) / 10 ^ 12, -(1 / 2) / 10 ^ 12⟩

/-- The key of the point at the brink has a coordinate at the end of the range, and is
the key of its point. -/
theorem ofPoint_nearest_brink : 12 ≤ Params.greatestPrecision ∧
    |brink.x * 10 ^ 12| < Params.keyRange ∧ |brink.y * 10 ^ 12| < Params.keyRange ∧
    ofPoint 12 brink = ⟨0x20000000000000, -1, 12⟩ ∧
    NearestMark 12 brink.x (0x20000000000000 / 10 ^ 12) ∧
      NearestMark 12 brink.y (-1 / 10 ^ 12) ∧
    ofPoint 12 (⟨-brink.x, -brink.y⟩ : Point Rat) = ⟨-0x20000000000000, 1, 12⟩ ∧
    ofPoint 12 ((⟨0x20000000000000, -1, 12⟩ : Key).point : Point Rat)
      = ⟨0x20000000000000, -1, 12⟩ ∧
    brink.y ≤ brink.x ∧
    (ofPoint 12 (⟨brink.y, 0⟩ : Point Rat)).x
      ≤ (ofPoint 12 (⟨brink.x, 0⟩ : Point Rat)).x := by
  have hprecision : 12 ≤ Params.greatestPrecision := by decide
  have hx : |brink.x * 10 ^ 12| < Params.keyRange := by decide +kernel
  have hy : |brink.y * 10 ^ 12| < Params.keyRange := by decide +kernel
  have hkey : ofPoint 12 brink = ⟨0x20000000000000, -1, 12⟩ := by decide +kernel
  have hpoint : (ofPoint 12 brink).point
      = (⟨0x20000000000000 / 10 ^ 12, -1 / 10 ^ 12⟩ : Point Rat) := by decide +kernel
  have hle : brink.y ≤ brink.x := by decide +kernel
  obtain ⟨hnearest, hkeys, horder⟩ := ofPoint_nearest hprecision
  obtain ⟨hmarkx, hmarky, hneg⟩ := hnearest brink hx hy
  rw [hpoint] at hmarkx hmarky
  rw [hkey] at hneg
  exact ⟨hprecision, hx, hy, hkey, hmarkx, hmarky, hneg,
    hkeys ⟨0x20000000000000, -1, 12⟩ rfl (by decide +kernel) (by decide +kernel), hle,
    (horder ⟨brink.y, 0⟩ ⟨brink.x, 0⟩).1 hle⟩

end Key

end LatticeLP

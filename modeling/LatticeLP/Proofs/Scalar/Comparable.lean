import Mathlib.Algebra.Order.Field.Rat
import Mathlib.Data.Prod.Lex
import LatticeLP.Double
import LatticeLP.Scalar.Rational

/-!
# Scalars that can be compared

To speak of the highest of several values, numbers must compare with each other, and
comparing must be transitive. `Comparable` asks for no more, and it asks nothing about
values that are no numbers – those that do not compare even with themselves. Rationals
provide it, and so do double-precision numbers: they are ordered by sign, exponent and
significand in this order (`le_iff_rank`).

A search that begins below everything and goes up by strict comparisons needs more: that
`<` is the strict part of `≤`, and that a value is above the bottom if and only if it is
above something. Such scalars are `Ordered`. The bottom of the double-precision numbers
is negative infinity (`aboveBottom_iff`), and the rationals have none.

What a comparison makes of a value that is no number is a third thing. It fails,
whichever side the value is on, if the scalars are `Separated`.
-/

namespace LatticeLP

/-- **What the order of the scalars has to provide for there to be a highest of several
values**: values that compare with themselves – all but those that are no numbers –
compare with each other, and comparing is transitive. -/
structure Comparable (K : Type) [Scalar K] : Prop where
  /-- Of two numbers one is at most the other. -/
  total : ∀ x y : K, x ≤ x → y ≤ y → x ≤ y ∨ y ≤ x
  /-- What is at most a number is at most those above it. -/
  trans : ∀ x y z : K, x ≤ y → y ≤ z → x ≤ z

/-- **What the order of the scalars has to provide for a search from below
everything.** -/
structure Ordered (K : Type) [Scalar K] : Prop extends Comparable K where
  /-- The value of what is not known is a number. -/
  zero_le_zero : (0 : K) ≤ 0
  /-- A value is below another if it is at most the other and not the other way round. -/
  lt_iff : ∀ x y : K, x < y ↔ x ≤ y ∧ ¬ y ≤ x
  /-- What is above the bottom is above something. -/
  aboveBottom_iff : ∀ x : K, Scalar.aboveBottom x = true ↔ ∃ y, y < x

/-- **What the order of the scalars has to provide for values that are no numbers to be
told from the others**: they compare with nothing. -/
structure Separated (K : Type) [Scalar K] : Prop extends Comparable K where
  /-- Only numbers are compared. -/
  self_of_le : ∀ x y : K, x ≤ y → x ≤ x ∧ y ≤ y

namespace Ordered

variable {K : Type} [Scalar K] {x y : K}

/-- Of two numbers one is below the other if it is not at least as high. -/
theorem lt_iff_not_le (hK : Ordered K) (hx : x ≤ x) (hy : y ≤ y) : x < y ↔ ¬ y ≤ x := by
  rw [hK.lt_iff]
  exact ⟨fun h => h.2, fun h => ⟨(hK.total x y hx hy).resolve_right h, h⟩⟩

/-- A number at the bottom is at most any number. -/
theorem le_of_bottom (hK : Ordered K) (hx : x ≤ x) (hy : y ≤ y)
    (hbottom : Scalar.aboveBottom x = false) :
    x ≤ y := by
  by_contra hnot
  have habove : Scalar.aboveBottom x = true :=
    (hK.aboveBottom_iff x).mpr ⟨y, (hK.lt_iff_not_le hy hx).mpr hnot⟩
  rw [hbottom] at habove
  cases habove

/-- What is above the bottom is not at most what is at the bottom. -/
theorem not_le_of_bottom (hK : Ordered K) (hbottom : Scalar.aboveBottom x = false)
    (habove : Scalar.aboveBottom y = true) : ¬ y ≤ x := by
  intro hyx
  obtain ⟨z, hz⟩ := (hK.aboveBottom_iff y).mp habove
  obtain ⟨hzy, hyz⟩ := (hK.lt_iff z y).mp hz
  have hzx : z < x := (hK.lt_iff z x).mpr
    ⟨hK.trans z y x hzy hyx, fun hxz => hyz (hK.trans y x z hyx hxz)⟩
  rw [(hK.aboveBottom_iff x).mpr ⟨z, hzx⟩] at hbottom
  cases hbottom

end Ordered

theorem comparable_rational : Comparable Rat where
  total x y _ _ := le_total x y
  trans _ _ _ := le_trans

theorem ordered_rational : Ordered Rat where
  toComparable := comparable_rational
  zero_le_zero := le_rfl
  lt_iff _ _ := lt_iff_le_not_ge
  aboveBottom_iff x := ⟨fun _ => ⟨x - 1, sub_one_lt x⟩, fun _ => rfl⟩

theorem lesser_rational (x y : Rat) : Scalar.lesser x y = min x y := by
  rw [Scalar.lesser, min_comm, min_def_lt]

theorem larger_rational (x y : Rat) : Scalar.larger x y = max x y := by
  rw [Scalar.larger, max_def_lt]

/-! ## Double-precision numbers -/

namespace Double

open Float.Model (UnpackedFloat)

/-- The place of an unpacked value in the order: by sign, exponent and significand. What
is no number has none. -/
def rank? : UnpackedFloat → Option (ℤ ×ₗ ℤ ×ₗ ℤ)
  | .notANumber => none
  | .infinity .negative => some (toLex (-2, toLex (0, 0)))
  | .finite .negative significand exponent _ =>
    some (toLex (-1, toLex (-exponent, -significand)))
  | .zero _ => some (toLex (0, toLex (0, 0)))
  | .finite .positive significand exponent _ =>
    some (toLex (1, toLex (exponent, significand)))
  | .infinity .positive => some (toLex (2, toLex (0, 0)))

theorem isLE_then_compare (e e' : ℤ) (m m' : ℕ) :
    ((compare e e').then (compare m m')).isLE = true ↔ e < e' ∨ e = e' ∧ m ≤ m' := by
  rcases lt_trichotomy e e' with h | rfl | h
  · simp [Int.compare_eq_lt.mpr h, h]
  · simp [Nat.isLE_compare]
  · simp [Int.compare_eq_gt.mpr h, h.not_gt, h.ne']

theorem isGE_then_compare (e e' : ℤ) (m m' : ℕ) :
    ((compare e e').then (compare m m')).isGE = true ↔ e' < e ∨ e = e' ∧ m' ≤ m := by
  rcases lt_trichotomy e e' with h | rfl | h
  · simp [Int.compare_eq_lt.mpr h, h.not_gt, h.ne]
  · simp [Nat.isGE_compare]
  · simp [Int.compare_eq_gt.mpr h, h]

theorem unpacked_le_iff_rank (a b : UnpackedFloat) :
    a.le b = true ↔ ∃ i ∈ rank? a, ∃ j ∈ rank? b, i ≤ j := by
  rcases a with (_ | _) | _ | _ | ⟨(_ | _), m, e, hm⟩ <;>
  rcases b with (_ | _) | _ | _ | ⟨(_ | _), m', e', hm'⟩ <;>
  dsimp only [UnpackedFloat.le, UnpackedFloat.compare, rank?] <;>
  simp +decide [Prod.Lex.toLex_le_toLex, isLE_then_compare, isGE_then_compare]

/-- **Double-precision numbers are ordered by their ranks.** -/
theorem le_iff_rank {x y : Float} :
    x ≤ y ↔ ∃ i ∈ rank? x.toModel.unpack, ∃ j ∈ rank? y.toModel.unpack, i ≤ j := by
  rw [← unpacked_le_iff_rank]
  exact decide_eq_true_iff

theorem isSome_rank? (a : UnpackedFloat) : (rank? a).isSome = !a.isNaN := by
  rcases a with (_ | _) | _ | _ | ⟨(_ | _), _⟩ <;> rfl

/-- The values that compare with themselves are the numbers. -/
theorem le_self_iff {x : Float} : x ≤ x ↔ x.isNaN = false := by
  have hrank : (rank? x.toModel.unpack).isSome = !x.isNaN := isSome_rank? _
  rw [le_iff_rank]
  cases h : rank? x.toModel.unpack with
  | none =>
    rw [h] at hrank
    simpa using hrank
  | some i =>
    rw [h] at hrank
    simpa using hrank

/-! ### The strict order -/

/-- Comparing the other way round gives the opposite answer, if any. -/
theorem unpacked_compare_swap (a b : UnpackedFloat) :
    b.compare a = (a.compare b).map Ordering.swap := by
  rcases a with (_ | _) | _ | _ | ⟨(_ | _), m, e, hm⟩ <;>
  rcases b with (_ | _) | _ | _ | ⟨(_ | _), m', e', hm'⟩ <;>
  dsimp only [UnpackedFloat.compare] <;>
  simp +decide [Ordering.swap_then, Int.compare_swap, Nat.compare_swap]

theorem unpacked_lt_iff (a b : UnpackedFloat) :
    a.lt b = true ↔ a.le b = true ∧ ¬ b.le a = true := by
  rw [UnpackedFloat.lt, UnpackedFloat.le, UnpackedFloat.le, unpacked_compare_swap a b]
  cases a.compare b with
  | none => decide
  | some o => cases o <;> decide

theorem lt_iff_unpacked {x y : Float} :
    x < y ↔ x.toModel.unpack.lt y.toModel.unpack = true :=
  decide_eq_true_iff

theorem le_iff_unpacked {x y : Float} :
    x ≤ y ↔ x.toModel.unpack.le y.toModel.unpack = true :=
  decide_eq_true_iff

/-- **A double-precision number is below another if it is at most the other and not the
other way round.** -/
theorem lt_iff {x y : Float} : x < y ↔ x ≤ y ∧ ¬ y ≤ x := by
  rw [lt_iff_unpacked, le_iff_unpacked, le_iff_unpacked]
  exact unpacked_lt_iff _ _

/-- What is above something is above negative infinity. -/
theorem negativeInfinity_lt_of_lt {a b : UnpackedFloat} (h : a.lt b = true) :
    (UnpackedFloat.infinity .negative).lt b = true := by
  revert h
  rcases b with (_ | _) | _ | _ | ⟨(_ | _), _⟩ <;>
    rcases a with (_ | _) | _ | _ | ⟨(_ | _), _⟩ <;>
  dsimp only [UnpackedFloat.lt, UnpackedFloat.compare] <;>
  simp +decide

theorem negativeInfinity_lt_iff (b : UnpackedFloat) :
    (UnpackedFloat.infinity .negative).lt b = true ↔
    b.isFinite = true ∨ (UnpackedFloat.zero .positive).lt b = true := by
  rcases b with (_ | _) | _ | _ | ⟨(_ | _), _⟩ <;>
  dsimp only [UnpackedFloat.lt, UnpackedFloat.compare, UnpackedFloat.isFinite] <;>
  simp +decide

/-- **The bottom of the double-precision numbers is negative infinity.** -/
theorem aboveBottom_iff {x : Float} : Scalar.aboveBottom x = true ↔ ∃ y, y < x := by
  have habove : Scalar.aboveBottom x = true ↔
      x.toModel.unpack.isFinite = true ∨
        (UnpackedFloat.zero .positive).lt x.toModel.unpack = true := by
    rw [Scalar.aboveBottom, Bool.or_eq_true, decide_eq_true_eq]
    exact or_congr Iff.rfl lt_iff_unpacked
  rw [habove, ← negativeInfinity_lt_iff]
  constructor
  · intro h
    have hbottom : (-(1.0 / 0.0) : Float).toModel.unpack = .infinity .negative := rfl
    exact ⟨-(1.0 / 0.0), lt_iff_unpacked.mpr (hbottom ▸ h)⟩
  · rintro ⟨y, hy⟩
    exact negativeInfinity_lt_of_lt (lt_iff_unpacked.mp hy)

end Double

theorem comparable_double : Comparable Float where
  total x y hx hy := by
    obtain ⟨i, hi, _⟩ := Double.le_iff_rank.mp hx
    obtain ⟨j, hj, _⟩ := Double.le_iff_rank.mp hy
    rcases le_total i j with h | h
    · exact .inl (Double.le_iff_rank.mpr ⟨i, hi, j, hj, h⟩)
    · exact .inr (Double.le_iff_rank.mpr ⟨j, hj, i, hi, h⟩)
  trans x y z hxy hyz := by
    obtain ⟨i, hi, j, hj, hij⟩ := Double.le_iff_rank.mp hxy
    obtain ⟨j', hj', k, hk, hjk⟩ := Double.le_iff_rank.mp hyz
    obtain rfl := Option.mem_unique hj hj'
    exact Double.le_iff_rank.mpr ⟨i, hi, k, hk, hij.trans hjk⟩

theorem separated_double : Separated Float where
  toComparable := comparable_double
  self_of_le x y hxy := by
    obtain ⟨i, hi, j, hj, _⟩ := Double.le_iff_rank.mp hxy
    exact ⟨Double.le_iff_rank.mpr ⟨i, hi, i, hi, le_rfl⟩,
      Double.le_iff_rank.mpr ⟨j, hj, j, hj, le_rfl⟩⟩

theorem ordered_double : Ordered Float where
  toComparable := comparable_double
  zero_le_zero := Double.le_self_iff.mpr rfl
  lt_iff _ _ := Double.lt_iff
  aboveBottom_iff _ := Double.aboveBottom_iff

end LatticeLP

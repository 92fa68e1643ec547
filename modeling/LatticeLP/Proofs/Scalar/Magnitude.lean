import Mathlib.Algebra.Group.Nat.Defs
import LatticeLP.Double

/-!
# Signs and exponents of double-precision numbers

What a computation with double-precision numbers rounds to is seldom known exactly. Two
things about it can be followed all the same: whether it is negative, and how large it
can become.

A number is as large as its **exponent field** lets it be: below one if the field is at
most 1022, below two if it is 1023, and finite if it is below 2047. A product with a
number below one has no larger field than the other factor (`exponentField_mul`). This
is not clear from the bounds alone, because rounding may carry into the next power of
two; but two significands of fifty-three digits have a product that is short of the next
power by more than what rounding adds (`rounded_lt`). The powers of a number below one
are therefore finite, however they are multiplied together (`isFinite_power`).

A sign is followed more easily. Natural numbers have no negative one, and neither have
their quotients, which are therefore not below zero (`unsigned_quotient`,
`not_lt_zero`); and a zero stays a zero if it is multiplied by anything finite
(`mul_beq_zero`).
-/

namespace LatticeLP

namespace Double

open Float.Model (UnpackedFloat Format)
open Float.Model.UnpackedFloat (Accuracy ExtendedMantissa Sign shiftToTargetExponent)

/-! ## How large numbers are -/

/-- The exponent field of a number. -/
def exponentField (x : Float.Model) : Nat :=
  (@UnpackedFloat.unpackExponent .binary64 x.toBits.toBitVec).toNat

/-- The sign of a number. -/
def sign (x : Float.Model) : Sign :=
  .ofBitVec (@UnpackedFloat.unpackSign .binary64 x.toBits.toBitVec)

/-- An unpacked number is finite, and its exponent is at most the one that a field
stands for. -/
def Below (field : Nat) : UnpackedFloat → Prop
  | .zero _ => True
  | .finite _ _ exponent _ => exponent + 1075 ≤ field
  | _ => False

/-- The significand of an unpacked number, if it has one. -/
def significand : UnpackedFloat → Nat
  | .finite _ m _ _ => m
  | _ => 0

variable {x y : Float.Model} {a b : UnpackedFloat} {field : Nat} {s : Sign}
  {m k d : Nat} {e : Int}

/-! ### Rounding -/

theorem mantissa_shiftRight (em : ExtendedMantissa) (k : Nat) :
    (em >>> k).mantissa = em.mantissa / 2 ^ k := by
  show (k.repeat ExtendedMantissa.shiftRightOne em).mantissa = _
  induction k with
  | zero => exact (Nat.div_one _).symm
  | succ k ih =>
    show (k.repeat ExtendedMantissa.shiftRightOne em).mantissa / 2 = _
    rw [ih, Nat.div_div_eq_div_mul, Nat.pow_succ]

theorem roundedMantissa_le (em : ExtendedMantissa) :
    em.roundedMantissa ≤ em.mantissa + 1 := by
  rcases em with ⟨m, _ | _, _ | _⟩ <;>
    simp only [ExtendedMantissa.roundedMantissa, ExtendedMantissa.accuracy,
      Accuracy.roundToNearestEven] <;> omega

/-- **A shift** takes as many places from the significand as it adds to the exponent,
which it raises to the one that the significand asks for. -/
theorem shiftToTargetExponent_exact (m : Nat) (e : Int) :
    ∃ k : Nat, (shiftToTargetExponent .binary64 m e .exact).1.mantissa = m / 2 ^ k ∧
      (shiftToTargetExponent .binary64 m e .exact).2 = e + k ∧
      e + k = max e (max (m.log2 - 52 + e) (-1074)) := by
  refine ⟨_, mantissa_shiftRight _ _, rfl, ?_⟩
  have htarget : Format.binary64.targetExponent (Float.Model.totalExponent m e)
      = max (m.log2 + 1 + e - 53) (-1074) := rfl
  rw [htarget]
  omega

theorem log2_le {n : Nat} (h : n < 2 ^ (k + 1)) : n.log2 ≤ k := by
  by_cases hn : n = 0
  · rw [hn, Nat.log2_zero]
    exact Nat.zero_le k
  · exact Nat.lt_succ_iff.mp ((Nat.log2_lt hn).mpr h)

/-- **Rounding a product up does not carry**: two significands have a product that
leaves room for one more, once it is shifted by the digits of one of them. -/
theorem rounded_lt (hm : m ≤ (2 ^ 53 - 1) * (2 ^ 53 - 1)) (hkd : 53 ≤ k + d) :
    m / 2 ^ k + 1 < 2 ^ (53 + d) := by
  obtain ⟨j, hj⟩ := Nat.exists_eq_add_of_le hkd
  have hpow : 2 ^ (53 + d) * 2 ^ k = 2 ^ 106 * 2 ^ j := by
    rw [← Nat.pow_add, ← Nat.pow_add]
    congr 1
    omega
  have hk : 2 ^ k ≤ 2 ^ 53 * 2 ^ j := by
    rw [← Nat.pow_add]
    exact Nat.pow_le_pow_right (by decide) (by omega)
  have hj : 0 < 2 ^ j := Nat.two_pow_pos j
  rw [← Nat.lt_sub_iff_add_lt, Nat.div_lt_iff_lt_mul (Nat.two_pow_pos k),
    Nat.sub_mul, hpow]
  omega

/-- **The forms of a rounded number**: its places are cut off, the digits are rounded, and
what carries is cut off again. -/
@[elab_as_elim]
theorem round_cases {motive : UnpackedFloat → Prop} {acc : Accuracy}
    (zero : motive (.zero s))
    (finite : ∀ m' hm', motive (.finite s m'
      (shiftToTargetExponent .binary64
        (shiftToTargetExponent .binary64 m e acc).1.roundedMantissa
        (shiftToTargetExponent .binary64 m e acc).2 .exact).2 hm')) :
    motive (UnpackedFloat.roundWithAccuracy .binary64 s m e acc) := by
  unfold UnpackedFloat.roundWithAccuracy
  dsimp only
  by_cases hzero : (shiftToTargetExponent .binary64
      (shiftToTargetExponent .binary64 m e acc).1.roundedMantissa
      (shiftToTargetExponent .binary64 m e acc).2 .exact).1.mantissa = 0
  · rw [dif_pos hzero]
    exact zero
  · rw [dif_neg hzero]
    exact finite _ _

/-- A product of two significands is rounded to no larger exponent than that of its
digits. -/
theorem below_round (hm : m ≤ (2 ^ 53 - 1) * (2 ^ 53 - 1)) (he : e + 1128 ≤ field)
    (hfield : 1 ≤ field) :
    Below field (UnpackedFloat.roundWithAccuracy .binary64 s m e .exact) := by
  refine round_cases trivial fun _ _ => ?_
  obtain ⟨k, hquotient, hshifted, hk⟩ := shiftToTargetExponent_exact m e
  obtain ⟨l, _, hcarried, hl⟩ := shiftToTargetExponent_exact
    (shiftToTargetExponent .binary64 m e .exact).1.roundedMantissa
    (shiftToTargetExponent .binary64 m e .exact).2
  show _ + (1075 : Int) ≤ field
  rw [hcarried, hl, hshifted]
  have hlog : m.log2 ≤ 105 := log2_le (by omega)
  -- the first shift ends `d` below the exponent allowed, and rounding adds one at most
  obtain ⟨d, hd⟩ : ∃ d : Nat, e + k + 1075 + d = field :=
    ⟨(field - (e + k + 1075)).toNat, by omega⟩
  have hrounded : (shiftToTargetExponent .binary64 m e .exact).1.roundedMantissa
      < 2 ^ (52 + d + 1) := by
    calc (shiftToTargetExponent .binary64 m e .exact).1.roundedMantissa
        ≤ m / 2 ^ k + 1 := hquotient ▸ roundedMantissa_le _
      _ < 2 ^ (53 + d) := rounded_lt hm (by omega)
      _ = 2 ^ (52 + d + 1) := by congr 1; omega
  have hlog' := log2_le hrounded
  omega

/-- **A product with a number below one** is bounded like the other factor. -/
theorem below_mul (ha : Below field a) (hb : Below 1022 b) (hfield : 1 ≤ field)
    (ham : significand a ≤ 2 ^ 53 - 1) (hbm : significand b ≤ 2 ^ 53 - 1) :
    Below field (a.mul .binary64 b) :=
  match a, b, ha, hb with
  | .zero _, .zero _, _, _ => trivial
  | .zero _, .finite .., _, _ => trivial
  | .finite .., .zero _, _, _ => trivial
  | .finite _ m e _, .finite _ m' e' _, ha, hb => by
    refine below_round (Nat.mul_le_mul ham hbm) ?_ hfield
    have ha : e + 1075 ≤ field := ha
    have hb : e' + 1075 ≤ (1022 : Nat) := hb
    omega

/-! ### Packing and unpacking -/

theorem exponentField_pack (h : Below field a) (hfield : field ≤ 2046) :
    exponentField (.pack a) ≤ field := by
  show (UnpackedFloat.unpackExponent (UnpackedFloat.pack .binary64 a)).toNat ≤ field
  match a, h with
  | .zero _, _ =>
    show (UnpackedFloat.unpackExponent
      (UnpackedFloat.packComponents .binary64 _ 0#_ 0#_)).toNat ≤ field
    rw [UnpackedFloat.unpackExponent_packComponents]
    exact Nat.zero_le field
  | .finite _ m e _, (he : e + 1075 ≤ field) =>
    have hbiased : (e + Format.binary64.exponentBias
        + Format.binary64.mantissaBitsWithoutImplicit).toNat ≤ field := by
      show (e + 1023 + 52).toNat ≤ field
      omega
    have hfits : ¬ 2 ^ Format.binary64.exponentBits ≤ (e + Format.binary64.exponentBias
        + Format.binary64.mantissaBitsWithoutImplicit).toNat + 1 := by
      show ¬ 2048 ≤ _
      omega
    unfold UnpackedFloat.pack
    dsimp only
    rw [if_neg hfits]
    split
    · rw [UnpackedFloat.unpackExponent_packComponents, BitVec.toNat_ofNat]
      exact Nat.le_trans (Nat.mod_le _ _) hbiased
    · rw [UnpackedFloat.unpackExponent_packComponents]
      exact Nat.zero_le field

/-- **The forms of an unpacked number.** -/
@[elab_as_elim]
theorem unpack_cases {motive : UnpackedFloat → Prop} (x : Float.Model)
    (infinity : exponentField x = 2047 → motive (.infinity (sign x)))
    (notANumber : exponentField x = 2047 → motive .notANumber)
    (zero : motive (.zero (sign x)))
    (subnormal : exponentField x = 0 → ∀ m hm, m ≤ 2 ^ 53 - 1 →
      motive (.finite (sign x) m (exponentField x - 1075 + 1) hm))
    (normal : ∀ m hm, m ≤ 2 ^ 53 - 1 →
      motive (.finite (sign x) m (exponentField x - 1075) hm)) : motive x.unpack := by
  unfold Float.Model.unpack UnpackedFloat.unpack
  dsimp only
  by_cases hones : @UnpackedFloat.unpackExponent .binary64 x.toBits.toBitVec = -1#11
  · rw [if_pos hones]
    have hfield : exponentField x = 2047 := congrArg BitVec.toNat hones
    by_cases hempty : @UnpackedFloat.unpackMantissa .binary64 x.toBits.toBitVec = 0#52
    · rw [if_pos hempty]
      exact infinity hfield
    · rw [if_neg hempty]
      exact notANumber hfield
  rw [if_neg hones]
  by_cases hzeros : @UnpackedFloat.unpackExponent .binary64 x.toBits.toBitVec = 0#11
  · rw [if_pos hzeros]
    by_cases hempty : @UnpackedFloat.unpackMantissa .binary64 x.toBits.toBitVec = 0#52
    · rw [dif_pos hempty]
      exact zero
    · rw [dif_neg hempty]
      have hfraction := (@UnpackedFloat.unpackMantissa .binary64 x.toBits.toBitVec).isLt
      exact subnormal (congrArg BitVec.toNat hzeros) _ _
        (Nat.le_sub_one_of_lt (Nat.lt_trans hfraction (by decide)))
  · rw [if_neg hzeros]
    exact normal _ _ (Nat.le_sub_one_of_lt (BitVec.isLt _))

theorem below_unpack (h : exponentField x ≤ field) (hpos : 1 ≤ field)
    (hfield : field ≤ 2046) : Below field x.unpack := by
  refine unpack_cases x (fun hones => ?_) (fun hones => ?_) trivial
    (fun hzeros m hm _ => ?_) fun m hm _ => ?_
  · omega
  · omega
  · show (exponentField x : Int) - 1075 + 1 + 1075 ≤ field
    omega
  · show (exponentField x : Int) - 1075 + 1075 ≤ field
    omega

/-- A significand has fifty-three digits. -/
theorem significand_unpack (x : Float.Model) : significand x.unpack ≤ 2 ^ 53 - 1 :=
  unpack_cases x (fun _ => Nat.zero_le _) (fun _ => Nat.zero_le _) (Nat.zero_le _)
    (fun _ _ _ hm => hm) (fun _ _ hm => hm)

/-! ### Products and powers -/

/-- **A product with a number below one** has no larger exponent field than the other
factor. -/
theorem exponentField_mul (hx : exponentField x ≤ field) (hy : exponentField y ≤ 1022)
    (hpos : 1 ≤ field) (hfield : field ≤ 2046) : exponentField (x * y) ≤ field :=
  exponentField_pack (below_mul (below_unpack hx hpos hfield) (below_unpack hy (by decide)
    (by decide)) hpos (significand_unpack x) (significand_unpack y)) hfield

theorem isFinite_of_exponentField_le {x : Float} (h : exponentField x.toModel ≤ 2046) :
    x.isFinite = true := by
  have hbelow := below_unpack h (by decide) (by decide)
  show x.toModel.unpack.isFinite = true
  match x.toModel.unpack, hbelow with
  | .zero _, _ => rfl
  | .finite .., _ => rfl

/-- Powers of a number below one stay below two, and so do the squares that they are
made of. -/
theorem exponentField_powerBySquaring {base acc : Float}
    (hbase : exponentField base.toModel ≤ 1022)
    (hacc : exponentField acc.toModel ≤ 1023) (digits n : Nat) :
    exponentField (Scalar.powerBySquaring digits acc base n).toModel ≤ 1023 := by
  induction digits generalizing acc base n with
  | zero => exact hacc
  | succ digits ih =>
    have hacc' : exponentField (if n % 2 = 1 then acc * base else acc).toModel
        ≤ 1023 := by
      split
      · exact exponentField_mul hacc hbase (by decide) (by decide)
      · exact hacc
    rw [Scalar.powerBySquaring]
    split
    · exact hacc'
    · exact ih (exponentField_mul hbase hbase (by decide) (by decide)) hacc' _

/-- **The powers of a number below one are finite.** -/
theorem isFinite_power {base : Float} (hbase : exponentField base.toModel ≤ 1022)
    (n : Nat) :
    (Scalar.power base n).isFinite = true := by
  rw [Scalar.power, if_neg (by omega)]
  exact isFinite_of_exponentField_le
    (Nat.le_trans (exponentField_powerBySquaring hbase (by decide) _ _) (by decide))

/-! ## Signs -/

/-- An unpacked value has no negative sign. -/
def Unsigned : UnpackedFloat → Prop
  | .infinity s | .zero s | .finite s _ _ _ => s = .positive
  | .notANumber => True

theorem unsigned_round {acc : Accuracy} :
    Unsigned (UnpackedFloat.roundWithAccuracy .binary64 .positive m e acc) :=
  round_cases rfl fun _ _ => rfl

theorem unsigned_ofNat (n : Nat) : Unsigned (.ofNat .binary64 n) := by
  show Unsigned (UnpackedFloat.normalize .binary64 n 0 .positive)
  unfold UnpackedFloat.normalize
  split
  · next hlt => exact absurd (Int.compare_eq_lt.mp hlt) (by omega)
  · rfl
  · exact unsigned_round

theorem Unsigned.forms (h : Unsigned a) :
    a = .notANumber ∨ a = .infinity .positive ∨ a = .zero .positive ∨
      ∃ m e hm, a = .finite .positive m e hm :=
  match a, h with
  | .notANumber, _ => .inl rfl
  | .infinity _, rfl => .inr (.inl rfl)
  | .zero _, rfl => .inr (.inr (.inl rfl))
  | .finite _ m e hm, rfl => .inr (.inr (.inr ⟨m, e, hm, rfl⟩))

theorem unsigned_div (ha : Unsigned a) (hb : Unsigned b) :
    Unsigned (a.div .binary64 b) := by
  obtain rfl | rfl | rfl | ⟨_, _, _, rfl⟩ := ha.forms <;>
    obtain rfl | rfl | rfl | ⟨_, _, _, rfl⟩ := hb.forms
  all_goals first | rfl | trivial | exact unsigned_round

theorem unpackSign_packComponents (s : Sign) (e : BitVec Format.binary64.exponentBits)
    (m : BitVec Format.binary64.mantissaBitsWithoutImplicit) :
    UnpackedFloat.unpackSign (UnpackedFloat.packComponents .binary64 s e m)
      = s.toBitVec := by
  show (s.toBitVec ++ e ++ m).extractLsb' 63 1 = s.toBitVec
  rw [BitVec.extractLsb'_append_eq_of_le (by decide),
    BitVec.extractLsb'_append_eq_of_le (by decide)]
  exact BitVec.extractLsb'_eq_self

/-- The sign bit of what has no negative sign is zero. -/
theorem unpackSign_pack (h : Unsigned a) :
    UnpackedFloat.unpackSign (UnpackedFloat.pack .binary64 a) = 0#1 := by
  obtain rfl | rfl | rfl | ⟨m, e, _, rfl⟩ := h.forms
  · exact unpackSign_packComponents .positive _ _
  · exact unpackSign_packComponents .positive _ _
  · exact unpackSign_packComponents .positive _ _
  · unfold UnpackedFloat.pack
    dsimp only
    split
    · exact unpackSign_packComponents .positive _ _
    · split <;> exact unpackSign_packComponents .positive _ _

theorem unsigned_unpack_pack (h : Unsigned a) :
    Unsigned (Float.Model.pack a).unpack := by
  have hsign : sign (.pack a) = .positive := congrArg Sign.ofBitVec (unpackSign_pack h)
  exact unpack_cases _ (fun _ => hsign) (fun _ => trivial) hsign
    (fun _ _ _ _ => hsign) (fun _ _ _ => hsign)

/-- **A natural number of one word has no negative sign.** -/
theorem unsigned_natCast {n : Nat} (h : n < 2 ^ 64) :
    Unsigned (n : Float).toModel.unpack := by
  have hword : n < 0x10000000000000000 := h
  show Unsigned (doubleOfNat n).toModel.unpack
  rw [doubleOfNat, if_pos hword]
  exact unsigned_unpack_pack (unsigned_ofNat _)

/-- **Nor has a quotient of such numbers.** -/
theorem unsigned_quotient {n k : Nat} (hn : n < 2 ^ 64) (hk : k < 2 ^ 64) :
    Unsigned ((n : Float) / (k : Float)).toModel.unpack :=
  unsigned_unpack_pack (unsigned_div (unsigned_natCast hn) (unsigned_natCast hk))

/-- What has no negative sign is not below zero. -/
theorem not_lt_zero (h : Unsigned a) (s : Sign) : ¬ a.lt (.zero s) = true := by
  cases a with
  | notANumber => exact Bool.false_ne_true
  | infinity s' =>
    obtain rfl : s' = .positive := h
    cases s <;> decide
  | zero s' => cases s <;> cases s' <;> decide
  | finite s' _ _ _ =>
    obtain rfl : s' = .positive := h
    cases s <;> exact Bool.false_ne_true

/-! ## Zeros -/

/-- **What equals zero is a zero**, of either sign. -/
theorem unpack_of_beq_zero {x : Float} (h : (x == 0) = true) :
    ∃ s, x.toModel.unpack = .zero s := by
  have hbeq : x.toModel.unpack.beq (.zero .positive) = true := h
  cases hx : x.toModel.unpack with
  | zero s => exact ⟨s, rfl⟩
  | notANumber => rw [hx] at hbeq; cases hbeq
  | infinity s => rw [hx] at hbeq; cases s <;> cases hbeq
  | finite s _ _ _ => rw [hx] at hbeq; cases s <;> cases hbeq

theorem beq_zero_of_unpack {x : Float} (h : x.toModel.unpack = .zero s) :
    (x == 0) = true := by
  show x.toModel.unpack.beq (.zero .positive) = true
  rw [h]
  rfl

/-- **A finite multiple of zero is zero.** -/
theorem mul_beq_zero {x y : Float} (hx : (x == 0) = true) (hy : y.isFinite = true) :
    (x * y == 0) = true := by
  obtain ⟨s, hx⟩ := unpack_of_beq_zero hx
  have hproduct : ∃ s', x.toModel.unpack.mul .binary64 y.toModel.unpack = .zero s' := by
    have hy : y.toModel.unpack.isFinite = true := hy
    rw [hx]
    cases hyu : y.toModel.unpack with
    | zero s' => exact ⟨s * s', rfl⟩
    | finite s' _ _ _ => exact ⟨s * s', rfl⟩
    | infinity _ => rw [hyu] at hy; cases hy
    | notANumber => rw [hyu] at hy; cases hy
  obtain ⟨s', hproduct⟩ := hproduct
  have hunpack : (x * y).toModel.unpack = .zero s' := by
    show (Float.Model.pack (x.toModel.unpack.mul .binary64 y.toModel.unpack)).unpack = _
    rw [hproduct]
    cases s' <;> rfl
  exact beq_zero_of_unpack hunpack

end Double

end LatticeLP

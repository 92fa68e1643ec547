import LatticeLP.Decimal
import LatticeLP.Double

/-!
# Rounded decimals

A double is an exact fraction, so its decimal expansion is finite and rounding it to a
given number of places is integer division. A value exactly half way between two
neighbours goes to the even one.

`roundDiv` is that division. `Double.fixed` prints a value with a fixed number of places
after the point and `Double.rounded` prints it in scientific notation with a fixed
number of places after its first digit.
-/

namespace LatticeLP

/-- **Integer division to nearest, a tie going to the even quotient.** -/
def roundDiv (num den : Nat) : Nat :=
  let q := num / den
  let twice := 2 * (num % den)
  if twice > den ∨ (twice = den ∧ q % 2 = 1) then q + 1 else q

/-- The numerator of `m · 2 ^ q · 10 ^ k` over `scaledDen q k`. -/
def scaledNum (m : Nat) (q k : Int) : Nat :=
  m * Nat.pow 2 q.toNat * Nat.pow 10 k.toNat

/-- The denominator of `m · 2 ^ q · 10 ^ k` as a fraction of natural numbers. -/
def scaledDen (q k : Int) : Nat :=
  Nat.pow 2 (-q).toNat * Nat.pow 10 (-k).toNat

/-- `m · 2 ^ q` to the nearest multiple of `10 ^ exponent`. -/
def roundedAt (m : Nat) (q exponent : Int) : Decimal :=
  ⟨roundDiv (scaledNum m q (-exponent)) (scaledDen q (-exponent)), exponent⟩

/-- Whether `10 ^ k ≤ m · 2 ^ q`. -/
def reaches (m : Nat) (q k : Int) : Bool :=
  scaledDen q (-k) ≤ scaledNum m q (-k)

/-- The first of `bound` exponents downwards from `k` whose power of ten `m · 2 ^ q`
reaches. -/
def descend (m : Nat) (q : Int) : (bound : Nat) → (k : Int) → Int
  | 0, k => k
  | bound + 1, k => if reaches m q k then k else descend m q bound (k - 1)

/-- **The power of ten of the first digit** of a positive `m · 2 ^ q`. A power of two
has three tenths as many decimal digits as binary ones, so the search starts a little
above that and is over after a few steps. -/
def leadingPlace (m : Nat) (q : Int) : Int :=
  descend m q 6 (((m.log2 : Int) + q) * 30103 / 100000 + 2)

namespace Double

/-- The texts of the values that are not numbers. -/
def specialText : Double → String
  | infinite negative => minusIf negative ++ "inf"
  | _ => "NaN"

/-- **Fixed places**: the expansion rounded after `places` digits behind the point. -/
def fixed (places : Nat) : Double → String
  | finite negative m q =>
    minusIf negative ++ (roundedAt m q (-(places : Int))).positional
  | special => special.specialText

/-- **Fixed places in scientific notation**: the expansion rounded `places` digits after
its first one. Rounding up to the next power of ten moves the first digit. -/
def rounded (places : Nat) : Double → String
  | finite negative m q =>
    if m = 0 then
      minusIf negative ++ (Decimal.positional ⟨0, -(places : Int)⟩) ++ "e0"
    else
      let d := roundedAt m q (leadingPlace m q - places)
      let d :=
        if d.digits = Nat.pow 10 (places + 1) then ⟨Nat.pow 10 places, d.exponent + 1⟩
          else d
      minusIf negative ++ d.scientific false
  | special => special.specialText

end Double

/-- A number with a fixed count of decimal places. -/
def fixedText (places : Nat) (x : Float) : String :=
  (Double.decode x).fixed places

/-- A number in scientific notation with a fixed count of decimal places. -/
def scientificText (places : Nat) (x : Float) : String :=
  (Double.decode x).rounded places

end LatticeLP

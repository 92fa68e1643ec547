import LatticeLP.Scalar

/-!
# Rational scalars

The exact reading of every computation. All rationals are finite, and rounding to the
nearest integer adds a half to the magnitude and takes the integer part.
-/

namespace LatticeLP

/-- The integer nearest to a rational, a half going away from zero. -/
def roundRational (x : Rat) : Int :=
  if x < 0 then -(-x + 1 / 2).floor else (x + 1 / 2).floor

instance : Scalar Rat where
  zero := 0
  one := 1
  decLe := inferInstance
  decLt := inferInstance
  isFinite _ := true
  round? x := some (roundRational x)

@[simp] theorem isFinite_rational (x : Rat) : Scalar.isFinite x = true := rfl

@[simp] theorem round?_rational (x : Rat) :
    Scalar.round? x = some (roundRational x) := rfl

end LatticeLP

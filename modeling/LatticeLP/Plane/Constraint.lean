import LatticeLP.Plane.Point

/-!
# Constraints

A constraint is a closed half-plane `a·x + b·y ≤ bound`. A point on the boundary
satisfies it.
-/

namespace LatticeLP

/-- The half-plane on which a linear form is at most a bound. -/
structure Constraint (K : Type) where
  /-- The left-hand side. -/
  form : LinearForm K
  /-- The right-hand side. -/
  bound : K
  deriving Repr, BEq, DecidableEq

namespace Constraint

variable {K : Type} [Scalar K]

/-- **The point lies in the half-plane.** -/
def Holds (c : Constraint K) (p : Point K) : Prop :=
  c.form.value p ≤ c.bound

@[specialize] instance (c : Constraint K) (p : Point K) : Decidable (c.Holds p) :=
  inferInstanceAs (Decidable (_ ≤ _))

/-- How far a point lies inside the half-plane, measured by the form. Outside it is
negative. -/
def slack (c : Constraint K) (p : Point K) : K :=
  c.bound - c.form.value p

/-- Coefficients and bound are finite. -/
def isFinite (c : Constraint K) : Bool :=
  c.form.isFinite && Scalar.isFinite c.bound

end Constraint

end LatticeLP

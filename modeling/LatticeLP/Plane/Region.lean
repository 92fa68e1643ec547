import LatticeLP.Plane.Constraint

/-!
# Regions

The feasible region of a program is the non-negative quadrant cut by finitely many
half-planes. It is described twice: by membership of a point, and by its **ceiling**,
the greatest second coordinate that the region admits above a given first coordinate.
Membership decides every move of a walk; the ceiling says how much of the plane a
drawing has to show.
-/

namespace LatticeLP

/-- The non-negative quadrant cut by half-planes. -/
structure Region (K : Type) where
  /-- The half-planes, in the order in which they were given. -/
  constraints : List (Constraint K)
  deriving Repr, BEq, DecidableEq

/-- How high the region reaches above a first coordinate. -/
inductive Height (K : Type) where
  /-- There is no greatest second coordinate. -/
  | unbounded
  /-- The greatest second coordinate. -/
  | bounded (y : K)
  deriving Repr, BEq, DecidableEq

variable {K : Type} [Scalar K]

namespace Height

/-- Lower a height to `y` if that is lower. -/
def cut : Height K → K → Height K
  | unbounded, y => if Scalar.belowTop y then bounded y else unbounded
  | bounded c, y => bounded (Scalar.lesser c y)

/-- The height leaves room for a point with a non-negative second coordinate. -/
def AdmitsZero : Height K → Prop
  | unbounded => True
  | bounded c => 0 ≤ c

instance : (h : Height K) → Decidable h.AdmitsZero
  | unbounded => inferInstanceAs (Decidable True)
  | bounded c => inferInstanceAs (Decidable (0 ≤ c))

/-- The greatest second coordinate, if there is one and it is finite. -/
def finite? : Height K → Option K
  | unbounded => none
  | bounded c => if Scalar.isFinite c then some c else none

end Height

/-- What a constraint leaves of a height above `x`: nothing when it excludes the whole
vertical line. A constraint that bounds the second coordinate from below leaves the
height as it is. -/
def Constraint.cap? (c : Constraint K) (x : K) (h : Height K) : Option (Height K) :=
  let rest := c.bound - c.form.a * x
  if 0 < c.form.b then some (h.cut (rest / c.form.b))
  else if c.form.b < 0 then some h
  else if rest < 0 then none
  else some h

namespace Region

/-- **The point lies in the region**: it is finite, non-negative in both coordinates,
and satisfies every constraint. -/
def Feasible (r : Region K) (p : Point K) : Prop :=
  p.isFinite = true ∧ 0 ≤ p.x ∧ 0 ≤ p.y ∧ ∀ c ∈ r.constraints, c.Holds p

@[specialize] instance (r : Region K) (p : Point K) : Decidable (r.Feasible p) :=
  inferInstanceAs (Decidable (_ ∧ _))

/-- **The ceiling of the region above `x`**: the greatest admitted second coordinate, or
nothing when the region does not reach `x`. -/
def ceiling? (r : Region K) (x : K) : Option (Height K) :=
  if x < 0 then none
  else (r.constraints.foldlM
    (fun h (c : Constraint K) => c.cap? x h) Height.unbounded).filter
    fun h => decide h.AdmitsZero

end Region

end LatticeLP

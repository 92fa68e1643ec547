import LatticeLP.Scalar

/-!
# Points and linear forms

The two decision variables of a planar program are the coordinates of a **point**. A
**linear form** `a·x + b·y` measures points: objectives and the left-hand sides of
constraints are linear forms.

A form is evaluated as written, both products first and then their sum, and never
contracted into fewer roundings.
-/

namespace LatticeLP

/-- A point of the plane. -/
structure Point (K : Type) where
  /-- The first coordinate. -/
  x : K
  /-- The second coordinate. -/
  y : K
  deriving Repr, BEq, DecidableEq

/-- The linear form `a·x + b·y`. -/
structure LinearForm (K : Type) where
  /-- The coefficient of the first coordinate. -/
  a : K
  /-- The coefficient of the second coordinate. -/
  b : K
  deriving Repr, BEq, DecidableEq

variable {K : Type} [Scalar K]

namespace Point

/-- The origin, where every walk starts. -/
def origin : Point K :=
  ⟨0, 0⟩

/-- Coordinates add up. -/
@[specialize] protected def add (p q : Point K) : Point K :=
  ⟨p.x + q.x, p.y + q.y⟩

instance : Add (Point K) := ⟨Point.add⟩

/-- Both coordinates are finite. -/
@[specialize] def isFinite (p : Point K) : Bool :=
  Scalar.isFinite p.x && Scalar.isFinite p.y

@[simp] theorem add_x (p q : Point K) : (p + q).x = p.x + q.x := rfl

@[simp] theorem add_y (p q : Point K) : (p + q).y = p.y + q.y := rfl

@[simp] theorem origin_x : (origin : Point K).x = 0 := rfl

@[simp] theorem origin_y : (origin : Point K).y = 0 := rfl

end Point

namespace LinearForm

/-- **The value of a form at a point.** -/
@[specialize] def value (f : LinearForm K) (p : Point K) : K :=
  f.a * p.x + f.b * p.y

/-- Both coefficients are finite. -/
@[specialize] def isFinite (f : LinearForm K) : Bool :=
  Scalar.isFinite f.a && Scalar.isFinite f.b

end LinearForm

end LatticeLP

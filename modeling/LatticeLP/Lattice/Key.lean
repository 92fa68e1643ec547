import LatticeLP.Decimal.Rounded
import LatticeLP.Plane.Point

/-!
# Keys

A walk on a lattice accumulates rounding errors, so two visits to the same lattice point
need not agree in their last bits. A **key** stands for all points that round alike:
each coordinate is scaled by `10 ^ precision` and rounded to the nearest integer, a half
going away from zero. Equality and order of keys are those of integers.

Coordinates are kept within 64 bits. A coordinate beyond that, or one that is not a
number, still has a key – the nearest end of the range, or zero – but says little about
the point.
-/

namespace LatticeLP

/-- A rounded point, as integers at a decimal precision. -/
structure Key where
  /-- The first coordinate, scaled and rounded. -/
  x : Int
  /-- The second coordinate, scaled and rounded. -/
  y : Int
  /-- How many decimal digits were kept. -/
  precision : Nat
  deriving Repr, DecidableEq, Hashable

namespace Key

/-! ## Order -/

/-- Keys are ordered by their first coordinate, then the second, then the precision. -/
def order : Key → Key → Ordering :=
  compareLex (compareOn Key.x) (compareLex (compareOn Key.y) (compareOn Key.precision))

instance : Std.TransCmp order :=
  inferInstanceAs (Std.TransCmp (compareLex _ _))

instance : Std.LawfulEqCmp order where
  eq_of_compare {k l} h := by
    simp only [order, compareLex, compareOn, Ordering.then_eq_eq,
      Std.LawfulEqOrd.compare_eq_iff_eq] at h
    cases k; cases l; simp_all

instance : Ord Key := ⟨order⟩

/-! ## Rounding -/

/-- The least coordinate of a key. -/
def least : Int := -0x8000000000000000

/-- The greatest coordinate of a key. -/
def greatest : Int := 0x7fffffffffffffff

variable {K : Type} [Scalar K]

/-- The power of ten by which coordinates are scaled. The precision is taken as a signed
number of 32 bits, so the largest ones stand for negative exponents. -/
@[specialize] def scale (precision : Nat) : K :=
  Scalar.power 10.0 (Int.bmod precision 0x100000000)

/-- The integer nearest to a coordinate, kept within the range of keys. -/
@[specialize] def coordinate (scaled : K) : Int :=
  match Scalar.round? scaled with
  | some n => max least (min n greatest)
  | none => if 0 < scaled then greatest else if scaled < 0 then least else 0

/-- **The key of a point.** -/
@[specialize] def ofPoint (precision : Nat) (p : Point K) : Key :=
  let unit : K := scale precision
  ⟨coordinate (p.x * unit), coordinate (p.y * unit), precision⟩

/-- **The point a key stands for.** -/
@[specialize] def point (k : Key) : Point K :=
  let unit : K := scale k.precision
  ⟨(k.x : K) / unit, (k.y : K) / unit⟩

/-- A key as the point it stands for, with as many places as it keeps digits. -/
def text (k : Key) : String :=
  let p : Point Float := k.point
  "(" ++ fixedText k.precision p.x ++ ", " ++ fixedText k.precision p.y ++ ")"

end Key

end LatticeLP

/-!
# Scalars

Everything this library computes, it computes over a type of **scalars**: coordinates,
coefficients, estimates and probabilities are all of one type `K`. Two readings matter.
In binary floating point the numbers are the ones a run actually prints; in the
rationals the same definitions are exact, and what is true of the algorithms can be
stated without rounding.

`Scalar K` therefore lists operations and no laws. It cannot ask for laws:
floating-point addition is not associative, and a comparison with a not-a-number is
false both ways. A theorem that needs the order or the field structure speaks about the
rationals; a theorem about shapes, counters or control flow speaks about every `K`.

Comparisons are written so that they mean the same thing whichever way an unordered
value falls: a guard `x ≤ y` *holds*, and nothing is concluded from its failure beyond
that failure.
-/

namespace LatticeLP

/-- **The operations a number type must offer.** No law is assumed of them. -/
class Scalar (K : Type) extends Zero K, One K, Add K, Sub K, Mul K, Div K, Neg K, LE K,
  LT K, BEq K,
    NatCast K, IntCast K, OfScientific K where
  /-- Whether one number is at most another can be decided. -/
  decLe : DecidableLE K
  /-- Whether one number is below another can be decided. -/
  decLt : DecidableLT K
  /-- The value is a number of finite magnitude. -/
  isFinite : K → Bool
  /-- The integer nearest to a finite value, a half going away from zero. -/
  round? : K → Option Int

namespace Scalar

variable {K : Type} [Scalar K]

instance : DecidableLE K := decLe

instance : DecidableLT K := decLt

/-- The magnitude of a number. -/
@[specialize] def abs (x : K) : K :=
  if x < 0 then -x else x

/-- The smaller of two numbers; a second operand that compares with nothing is passed
over. -/
@[specialize] def lesser (x y : K) : K :=
  if y < x then y else x

/-- The larger of two numbers; a second operand that compares with nothing is passed
over. -/
@[specialize] def larger (x y : K) : K :=
  if x < y then y else x

/-- The value lies strictly above the bottom of the order. Not-a-number does not. -/
@[specialize] def aboveBottom (x : K) : Bool :=
  isFinite x || decide (0 < x)

/-- The value lies strictly below the top of the order. Not-a-number does not. -/
@[specialize] def belowTop (x : K) : Bool :=
  isFinite x || decide (x < 0)

/-! ## Powers

A power is computed by squaring: the base is squared once per binary digit of the
exponent, and the squares that belong to a digit one are multiplied together, the lowest
first. In exact arithmetic the grouping does not matter; in floating point it decides
the last bit.
-/

/-- Square-and-multiply: `acc · base ^ n` for `n < 2 ^ digits`. -/
@[specialize] def powerBySquaring : (digits : Nat) → (acc base : K) → Nat → K
  | 0, acc, _, _ => acc
  | digits + 1, acc, base, n =>
    let acc := if n % 2 = 1 then acc * base else acc
    if n / 2 = 0 then acc else powerBySquaring digits acc (base * base) (n / 2)

/-- A power with an integer exponent. A negative exponent inverts the power of its
magnitude. -/
@[specialize] def power (base : K) (n : Int) : K :=
  let magnitude := powerBySquaring (n.natAbs.log2 + 1) 1 base n.natAbs
  if n < 0 then 1 / magnitude else magnitude

end Scalar

end LatticeLP

import LatticeLP.Scalar

/-!
# Double-precision numbers

A double-precision number is not a number, an infinity of either sign, or an exact
product `± m · 2 ^ q` of an integer and a power of two. `Double.decode` reads that off
the bit pattern, and everything the library says about a particular floating-point value
– its text, the integer nearest to it – is said about `m` and `q` in exact integer
arithmetic.

Zero keeps its sign: the two zeros are `± 0 · 2 ^ -1074`.
-/

namespace LatticeLP

/-- What a double-precision bit pattern stands for. -/
inductive Double where
  /-- Not a number. -/
  | nan
  /-- An infinity. -/
  | infinite (negative : Bool)
  /-- The exact value `± significand · 2 ^ exponent`. -/
  | finite (negative : Bool) (significand : Nat) (exponent : Int)
  deriving Repr, DecidableEq

namespace Double

/-- The least exponent of a finite double. Subnormal numbers and zero have it. -/
def leastExponent : Int := -1074

/-- The weight of the implicit leading bit of a normal significand, `2 ^ 52`. -/
def leadingBit : Nat := 0x10000000000000

/-- **Read a value off its bit pattern**: one sign bit, eleven bits of exponent,
fifty-two of fraction. The highest exponent marks infinities and not-a-number; the
lowest one marks numbers without the implicit leading bit. -/
def decode (x : Float) : Double :=
  let bits := x.toBits
  let negative := bits >>> 63 == 1
  let scale := ((bits >>> 52) &&& 0x7ff).toNat
  let fraction := (bits &&& 0xfffffffffffff).toNat
  if scale = 0x7ff then
    if fraction = 0 then infinite negative else nan
  else if scale = 0 then
    finite negative fraction leastExponent
  else
    finite negative (leadingBit + fraction) (leastExponent + (scale - 1 : Nat))

/-- The integer nearest to a finite value, a half going away from zero. A significand
has at most fifty-three bits, so a value scaled down by more than fifty-four rounds to
zero. -/
def round? : Double → Option Int
  | finite negative significand exponent =>
    let magnitude :=
      match exponent with
      | .ofNat up => significand <<< up
      | .negSucc k =>
        if k < 54 then (significand + 1 <<< k) >>> (k + 1) else 0
    some (if negative then -(magnitude : Int) else magnitude)
  | _ => none

end Double

/-- A natural number as a double, rounded to nearest. Numbers below `2 ^ 64` take the
direct way. -/
def doubleOfNat (n : Nat) : Float :=
  if n < 0x10000000000000000 then n.toUInt64.toFloat else Float.ofNat n

/-- An integer as a double, rounded to nearest. -/
def doubleOfInt : Int → Float
  | .ofNat n => doubleOfNat n
  | .negSucc n => -doubleOfNat (n + 1)

/-- The arithmetic in which runs are carried out: each operation rounds once, to
nearest. -/
instance : Scalar Float where
  natCast := doubleOfNat
  intCast := doubleOfInt
  decLe := inferInstance
  decLt := inferInstance
  isFinite := Float.isFinite
  round? x := (Double.decode x).round?

end LatticeLP

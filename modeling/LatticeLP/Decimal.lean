/-!
# Decimals

A decimal is `digits · 10 ^ exponent`, a natural number and a power of ten. It is what
lies between a binary number and its text: printing first chooses a decimal and then
lays it out, reading first recognises a decimal and then rounds it.
-/

namespace LatticeLP

/-- The value `digits · 10 ^ exponent`. -/
structure Decimal where
  /-- The digits, read as one number. -/
  digits : Nat
  /-- The power of ten of the last digit. -/
  exponent : Int
  deriving Repr, DecidableEq

namespace Decimal

/-- Move zeros at the end of the digits into the exponent, at most `bound` of them. -/
def dropZeros : (bound : Nat) → Decimal → Decimal
  | 0, d => d
  | bound + 1, d =>
    if d.digits ≠ 0 ∧ d.digits % 10 = 0
      then dropZeros bound ⟨d.digits / 10, d.exponent + 1⟩ else d

/-- The digits as text. -/
def text (d : Decimal) : String :=
  toString d.digits

/-- How many digits there are. -/
def width (d : Decimal) : Nat :=
  d.text.length

/-- The power of ten of the first digit. -/
def leading (d : Decimal) : Int :=
  d.exponent + (d.width : Int) - 1

/-! ## Layouts -/

/-- A run of zeros. -/
def zeros (n : Nat) : String :=
  String.ofList (List.replicate n '0')

/-- **Positional notation**: all digits, with a point only where a fraction follows, and
a zero before the point when nothing else is there. -/
def positional (d : Decimal) : String :=
  match d.exponent with
  | .ofNat up => d.text ++ zeros up
  | .negSucc k =>
    let places := k + 1
    let cs := (zeros (places + 1 - d.width) ++ d.text).toList
    let whole := cs.length - places
    String.ofList (cs.take whole) ++ "." ++ String.ofList (cs.drop whole)

/-- **Scientific notation**: one digit, the others behind a point if there are any, and
the exponent behind an `e` with a sign only when it is negative or `plus` asks for
one. -/
def scientific (plus : Bool) (d : Decimal) : String :=
  let cs := d.text.toList
  let fraction := if cs.length ≤ 1 then "" else "." ++ String.ofList (cs.drop 1)
  let sign := if plus && decide (0 ≤ d.leading) then "+" else ""
  String.ofList (cs.take 1) ++ fraction ++ "e" ++ sign ++ toString d.leading

end Decimal

/-! ## Signs and special values -/

/-- A minus sign for negative values. Negative zero is negative. -/
def minusIf (negative : Bool) : String :=
  if negative then "-" else ""

end LatticeLP

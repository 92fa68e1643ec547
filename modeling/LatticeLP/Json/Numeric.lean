import LatticeLP.Decimal.Numeral

/-!
# Numbers in JSON texts

A number without point and exponent is an integer as long as it fits 64 bits; every
other number is a double. The double is found quickly and not always to the nearest:
digits are collected into one word until the next would not fit, the rest only count
towards the exponent, and one multiplication or division by a power of ten finishes the
job. A number beyond the range of doubles is kept as a value of its own, because it is a
fault only where a number is wanted.

Minus zero is no integer, since integers have no such value.
-/

namespace LatticeLP

/-- A number as it was read. -/
inductive Numeric where
  /-- An integer that is not negative. -/
  | natural (n : Nat)
  /-- A negative integer. -/
  | negative (n : Int)
  /-- Any other number. -/
  | real (x : Float)
  /-- A number beyond the range of doubles. -/
  | excessive

namespace Numeric

/-- The greatest number a word holds. -/
def greatestWord : Nat := 0xffffffffffffffff

/-- The greatest exponent that is told apart from larger ones. -/
def greatestExponent : Nat := 0x7fffffff

/-- The value of a digit. -/
def digitValue (c : Char) : Nat :=
  c.toNat - '0'.toNat

/-- Append digits to a word while they fit. The word, how many digits it took, and what
is left. -/
def absorb (word : Nat) : List Char → Nat × Nat × List Char
  | [] => (word, 0, [])
  | c :: rest =>
    if c.isDigit && decide (10 * word + digitValue c ≤ greatestWord) then
      let (word, count, rest) := absorb (10 * word + digitValue c) rest
      (word, count + 1, rest)
    else (word, 0, c :: rest)

/-- Divide by powers of ten until the exponent is within reach of one more division. A
word is zero after two such steps. -/
def scaleDown : (bound : Nat) → Float → (exponent : Nat) → Float
  | 0, f, _ => f
  | bound + 1, f, exponent =>
    if exponent ≤ 308 then f / Decimal.toFloat false ⟨1, exponent⟩
    else if f == 0 then f
    else scaleDown bound (f / Decimal.toFloat false ⟨1, 308⟩) (exponent - 308)

/-- A word times a power of ten, with a sign. -/
def ofParts (negative : Bool) (word : Nat) (exponent : Int) : Numeric :=
  let f := doubleOfNat word
  let magnitude? : Option Float :=
    match exponent with
    | .ofNat up =>
      if up ≤ 308 then
        let f := f * Decimal.toFloat false ⟨1, up⟩
        if f.isFinite then some f else none
      else if f == 0 then some f
      else none
    | .negSucc k => some (scaleDown 4 f (k + 1))
  match magnitude? with
  | some f => real (if negative then -f else f)
  | none => excessive

/-- A number with an exponent. A positive exponent that is too large to be told apart
from larger ones leaves only zero within range, and a negative one leaves only zero. -/
def ofExponent (negative : Bool) (word : Nat) (exponent : Int) (down : Bool)
    (power : Nat) : Numeric :=
  if greatestExponent < power then
    if word ≠ 0 ∧ !down then excessive else real (if negative then -0.0 else 0.0)
  else ofParts negative word (if down then exponent - power else exponent + power)

/-- Read the exponent, if there is one, of a number whose other digits were read. -/
def exponent? (negative : Bool) (word : Nat) (exponent : Int) :
    List Char → Option (Numeric × List Char)
  | c :: rest =>
    if c = 'e' ∨ c = 'E' then
      let (down, rest) := Numeral.sign rest
      let (ds, rest) := Numeral.digits rest
      if ds.isEmpty then none
      else some (ofExponent negative word exponent down (digitsValue 0 ds), rest)
    else some (ofParts negative word exponent, c :: rest)
  | [] => some (ofParts negative word exponent, [])

/-- Read the digits behind a point, of which there must be one, and an exponent. -/
def fraction? (negative : Bool) (word : Nat) (exponent : Int) (cs : List Char) :
    Option (Numeric × List Char) :=
  if (Numeral.digits cs).1.isEmpty then none
  else
    let (word, count, rest) := absorb word cs
    exponent? negative word (exponent - count) (rest.dropWhile Char.isDigit)

/-- An integer, or the double in its place if it does not fit. -/
def ofInteger (negative : Bool) (word : Nat) : Numeric :=
  if negative then
    if 0 < word ∧ word ≤ 0x8000000000000000 then .negative (-word)
      else real (-doubleOfNat word)
  else natural word

/-- Read what follows the digits in front of the point, `skipped` of which did not fit
the word. -/
def afterInteger? (negative : Bool) (word skipped : Nat) :
    List Char → Option (Numeric × List Char)
  | '.' :: rest => fraction? negative word skipped rest
  | rest =>
    match rest, skipped with
    | 'e' :: _, _ => exponent? negative word skipped rest
    | 'E' :: _, _ => exponent? negative word skipped rest
    | _, 0 => some (ofInteger negative word, rest)
    | _, _ => some (ofParts negative word skipped, rest)

/-- **Read a number without its sign.** A zero in front of other digits is refused. -/
def unsigned? (negative : Bool) : List Char → Option (Numeric × List Char)
  | [] => none
  | c :: rest =>
    if c = '0' then
      if (Numeral.digits rest).1.isEmpty then afterInteger? negative 0 0 rest else none
    else if c.isDigit then
      let (word, _, rest) := absorb (digitValue c) rest
      let (skipped, rest) := Numeral.digits rest
      afterInteger? negative word skipped.length rest
    else none

/-- **Read a number.** -/
def read? : List Char → Option (Numeric × List Char)
  | '-' :: rest => unsigned? true rest
  | cs => unsigned? false cs

/-! ## What is wanted -/

/-- The number as a double. -/
def toFloat? : Numeric → Option Float
  | natural n => some (doubleOfNat n)
  | negative n => some (doubleOfInt n)
  | real x => some x
  | excessive => none

/-- The number as an integer. -/
def toInt? : Numeric → Option Int
  | natural n => some n
  | negative n => some n
  | _ => none

end Numeric

end LatticeLP

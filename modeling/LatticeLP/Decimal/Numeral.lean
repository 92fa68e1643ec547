import LatticeLP.Decimal
import LatticeLP.Double

/-!
# Numerals

The text of a number as people type it: an optional sign, then one of the names `inf`,
`infinity` and `nan` in any case, or digits with an optional point among them and an
optional power of ten behind them. A digit is needed on at least one side of the point
and at least one in the exponent; nothing may follow.

Reading happens in two steps. `Numeral.read?` recognises the grammar and keeps the exact
decimal; `Numeral.toFloat` rounds it to the nearest double, so that a magnitude beyond
the range is infinite.
-/

namespace LatticeLP

/-- The value of a run of digits, behind the digits already read. -/
def digitsValue (start : Nat) (cs : List Char) : Nat :=
  cs.foldl (fun n c => 10 * n + (c.toNat - '0'.toNat)) start

/-- **The double nearest to `± digits · 10 ^ exponent`.** Magnitudes that are certainly
beyond the range, or certainly below half the least double, are recognised by the place
of their first digit. -/
def Decimal.toFloat (negative : Bool) (d : Decimal) : Float :=
  let magnitude : Float :=
    if d.digits = 0 then 0
    else if d.leading > 310 then 1 / 0
    else if d.leading < -330 then 0
    else Float.ofScientific d.digits (decide (d.exponent < 0)) d.exponent.natAbs
  if negative then -magnitude else magnitude

/-- A numeral, read and not yet rounded. -/
inductive Numeral where
  /-- The name of not-a-number. -/
  | nan
  /-- The name of an infinity. -/
  | infinite (negative : Bool)
  /-- Digits and a power of ten. -/
  | decimal (negative : Bool) (value : Decimal)
  deriving Repr, DecidableEq

/-- Why a text is no numeral. -/
inductive NumeralError where
  /-- Nothing was given. -/
  | empty
  /-- Something else was given. -/
  | invalid
  deriving Repr, DecidableEq

/-- The wording of a numeral error. -/
def NumeralError.message : NumeralError → String
  | .empty => "cannot parse float from empty string"
  | .invalid => "invalid float literal"

namespace Numeral

/-- The digits at the front of a text, and what follows them. -/
def digits (cs : List Char) : List Char × List Char :=
  cs.span Char.isDigit

/-- A sign at the front of a text, and what follows it. -/
def sign : List Char → Bool × List Char
  | '+' :: rest => (false, rest)
  | '-' :: rest => (true, rest)
  | rest => (false, rest)

/-- The power of ten at the end of a numeral. -/
def exponent? : List Char → Option Int
  | [] => some 0
  | c :: rest =>
    if c = 'e' ∨ c = 'E' then
      let (negative, rest) := sign rest
      let (ds, rest) := digits rest
      if ds.isEmpty || !rest.isEmpty then none
      else
        let n : Int := digitsValue 0 ds
        some (if negative then -n else n)
    else none

/-- The digits behind a point, if there is a point, and what follows them. -/
def fraction : List Char → List Char × List Char
  | '.' :: rest => digits rest
  | rest => ([], rest)

/-- Digits, an optional point and an optional power of ten. -/
def decimal? (cs : List Char) : Option Decimal := do
  let (whole, rest) := digits cs
  let (places, rest) := fraction rest
  if whole.isEmpty && places.isEmpty then none
  else
    let power ← exponent? rest
    some ⟨digitsValue 0 (whole ++ places), power - places.length⟩

/-- What follows the sign of a numeral. -/
def unsigned? (negative : Bool) (cs : List Char) : Option Numeral :=
  let name := cs.map Char.toLower
  if name = "nan".toList then some nan
  else if name = "inf".toList ∨ name = "infinity".toList then some (infinite negative)
  else (decimal? cs).map (decimal negative)

/-- **Read a numeral.** -/
def read? (cs : List Char) : Except NumeralError Numeral :=
  if cs.isEmpty then .error .empty
  else
    let (negative, rest) := sign cs
    match unsigned? negative rest with
    | some n => .ok n
    | none => .error .invalid

/-- The double nearest to a numeral. -/
def toFloat : Numeral → Float
  | nan => 0 / 0
  | infinite negative => if negative then -1 / 0 else 1 / 0
  | decimal negative d => d.toFloat negative

end Numeral

/-- **Read a number**: the double nearest to a numeral. -/
def readNumber? (cs : List Char) : Except NumeralError Float :=
  (Numeral.read? cs).map Numeral.toFloat

end LatticeLP

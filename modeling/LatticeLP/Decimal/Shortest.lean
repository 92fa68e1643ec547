import LatticeLP.Decimal.Rounded

/-!
# Shortest decimals

The text of a number should read back as that number and be no longer than it must. All
real numbers in an interval around a double round to it; the interval reaches half way
to either neighbour, ends included when the significand is even. `shortest` looks for
the coarsest decimal grid with a point in that interval. If any point of a grid lies in
it, so does one of the two points next to the value, so two candidates per grid decide;
of two hits the one nearer to the value wins.

A value half way between two hits is decided by the format that prints it, as are the
places where positional notation ends and whether whole numbers show a point.
`NumberStyle` collects these decisions.
-/

namespace LatticeLP

/-- Which of two equally near decimals is printed. -/
inductive Tie where
  /-- The larger one. -/
  | up
  /-- The one with an even last digit. -/
  | even
  deriving Repr, DecidableEq

/-- The doubles around `m · 2 ^ q` are `2 ^ q` apart, except that the spacing below a
power of two is half of that. In units of a quarter of the spacing the value is `4 m`,
and the interval of numbers that round to it reaches two units up and, below, this many
units down. -/
def unitsBelow (m : Nat) (q : Int) : Nat :=
  if m = Double.leadingBit ∧ Double.leastExponent < q then 1 else 2

/-- Whether `c · 10 ^ k` rounds to `m · 2 ^ q`. -/
def roundsTo (m : Nat) (q : Int) (c : Nat) (k : Int) : Bool :=
  let unit := scaledDen (q - 2) (-k)
  let point := c * unit
  let low := scaledNum (4 * m - unitsBelow m q) (q - 2) (-k)
  let high := scaledNum (4 * m + 2) (q - 2) (-k)
  if m % 2 = 0 then low ≤ point && point ≤ high else low < point && point < high

/-- The point of the grid `10 ^ k` that stands for `m · 2 ^ q`, if one of its two
neighbours there rounds to it. -/
def gridPoint? (tie : Tie) (m : Nat) (q k : Int) : Option Decimal :=
  let num := scaledNum m q (-k)
  let den := scaledDen q (-k)
  let below := num / den
  let twice := 2 * (num % den)
  match roundsTo m q below k, roundsTo m q (below + 1) k with
  | false, false => none
  | true, false => some ⟨below, k⟩
  | false, true => some ⟨below + 1, k⟩
  | true, true =>
    let upper : Bool := match tie with
      | .up => den ≤ twice
      | .even => den < twice || (den == twice && below % 2 == 1)
    some ⟨if upper then below + 1 else below, k⟩

/-- The first of `bound` grids downwards from `10 ^ k` that has a point for
`m · 2 ^ q`. -/
def firstGrid (tie : Tie) (m : Nat) (q : Int) : (bound : Nat) → (k : Int) → Decimal
  | 0, k => roundedAt m q k
  | bound + 1, k => (gridPoint? tie m q k).getD (firstGrid tie m q bound (k - 1))

/-- **The shortest decimal that reads back as a positive `m · 2 ^ q`.** Seventeen digits
always suffice. -/
def shortest (tie : Tie) (m : Nat) (q : Int) : Decimal :=
  (firstGrid tie m q 17 (leadingPlace m q)).dropZeros 17

/-! ## Number styles -/

/-- **How a format writes numbers.** -/
structure NumberStyle where
  /-- Which of two equally near decimals is printed. -/
  tie : Tie
  /-- Whether a number whose first digit stands at this power of ten is written
  positionally. -/
  isPositional : Int → Bool
  /-- Whole numbers end in a point and a zero. -/
  showsPoint : Bool
  /-- Numbers that are not negative carry a plus sign. -/
  showsPlus : Bool

namespace NumberStyle

/-- Numbers in running text are positional however long they get, and whole numbers show
no point. -/
def plain : NumberStyle where
  tie := .up
  isPositional _ := true
  showsPoint := false
  showsPlus := false

/-- Numbers in running text that show their sign. -/
def signed : NumberStyle :=
  { plain with showsPlus := true }

/-- The text of a decimal that is not zero, without its sign. -/
def layOut (style : NumberStyle) (d : Decimal) : String :=
  if style.isPositional d.leading then
    d.positional ++ (if style.showsPoint && decide (0 ≤ d.exponent) then ".0" else "")
  else
    d.scientific true

/-- The sign in front of the digits. -/
def sign (style : NumberStyle) (negative : Bool) : String :=
  if negative then "-" else if style.showsPlus then "+" else ""

/-- **The text of a number**: the shortest decimal that reads back, in this style. -/
def write (style : NumberStyle) : Double → String
  | .nan => "NaN"
  | .infinite negative => style.sign negative ++ "inf"
  | .finite negative m q =>
    style.sign negative ++
      (if m = 0 then style.layOut ⟨0, 0⟩ else style.layOut (shortest style.tie m q))

end NumberStyle

/-- A number in running text. -/
def numberText (x : Float) : String :=
  NumberStyle.plain.write (Double.decode x)

/-- A number in running text with its sign. -/
def signedText (x : Float) : String :=
  NumberStyle.signed.write (Double.decode x)

end LatticeLP

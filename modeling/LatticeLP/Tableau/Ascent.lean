import LatticeLP.Tableau.Pivot

/-!
# Ascent by Bland's rule

The simplex method pivots until no column prices negative. **Bland's rule** makes both
choices by lowest index: the first column with a negative price enters, and among the
rows that limit its growth most tightly the one with the lowest basic variable leaves.
In exact arithmetic this never returns to a basis it has left.

Rounding blurs both choices, so a tolerance stands for zero: a price counts as negative
below minus the tolerance, an entry as positive above it, and two ratios as equal within
it.
-/

namespace LatticeLP

variable {K : Type} [Scalar K]

/-- A row that limits how far an entering variable may grow. -/
structure Limit (K : Type) where
  /-- The row. -/
  row : Nat
  /-- Its basic variable. -/
  basic : Nat
  /-- How far it lets the variable grow. -/
  ratio : K
  deriving Repr, BEq, DecidableEq

/-- One limit stays chosen in the face of another: it is smaller beyond the tolerance,
or not larger beyond it and its basic variable comes first. -/
def Limit.Precedes (tolerance : K) (chosen other : Limit K) : Prop :=
  chosen.ratio + tolerance < other.ratio ∨
    (chosen.ratio - tolerance ≤ other.ratio ∧ chosen.basic < other.basic)

instance (tolerance : K) (chosen other : Limit K) :
    Decidable (chosen.Precedes tolerance other) :=
  inferInstanceAs (Decidable (_ ∨ _))

/-- The choice between the limit chosen so far and the next one. -/
def Limit.choose (tolerance : K) : Option (Limit K) → Limit K → Option (Limit K)
  | some chosen,
    other => if chosen.Precedes tolerance other then some chosen else some other
  | none, other => some other

/-- How a phase of pivots ends. -/
inductive Stop where
  /-- No column prices negative. -/
  | optimal
  /-- A column prices negative and no row limits it. -/
  | unbounded (column : Nat)
  /-- A column prices negative and no pivot is left to make. -/
  | exhausted
  deriving Repr, DecidableEq

/-- A phase of pivots: where it ended, how, and by which pivots it got there. -/
structure Ascent (K : Type) where
  /-- The tableau at the end. -/
  tableau : Tableau K
  /-- The pivots, in order. -/
  cells : List Cell
  /-- The reason for the end. -/
  stop : Stop
  deriving Repr, BEq, DecidableEq

namespace Tableau

/-- **The entering column**: the first of the leading `columns` with a negative price. -/
def entering? (t : Tableau K) (columns : Nat) (tolerance : K) : Option Nat :=
  (t.price.coeffs.take columns).findIdx? fun c => decide (c < -tolerance)

/-- The limits on the growth of a column, row by row. -/
def limits (t : Tableau K) (column : Nat) (tolerance : K) : List (Limit K) :=
  t.rows.zipIdx.filterMap fun (row, index) =>
    if tolerance < row.coeff column
      then some ⟨index, row.basic, row.rhs / row.coeff column⟩ else none

/-- **The leaving row**: the tightest limit, a tie within the tolerance going to the
lower basic variable. -/
def leaving? (t : Tableau K) (column : Nat) (tolerance : K) : Option Nat :=
  ((t.limits column tolerance).foldl (Limit.choose tolerance) none).map (·.row)

/-- **Pivot within a budget until none of the leading `columns` prices negative.** -/
def ascend (columns : Nat) (tolerance : K) : (budget : Nat) → Tableau K → Ascent K
  | 0, t =>
    match t.entering? columns tolerance with
    | none => ⟨t, [], .optimal⟩
    | some _ => ⟨t, [], .exhausted⟩
  | budget + 1, t =>
    match t.entering? columns tolerance with
    | none => ⟨t, [], .optimal⟩
    | some column =>
      match t.leaving? column tolerance with
      | none => ⟨t, [], .unbounded column⟩
      | some row =>
        let rest := ascend columns tolerance budget (t.pivot ⟨row, column⟩)
        { rest with cells := ⟨row, column⟩ :: rest.cells }

end Tableau

end LatticeLP

import LatticeLP.Scalar

/-!
# Simplex tableaux

A **tableau** holds a linear program in any number of variables while it is being
solved: maximise `c·x` subject to `A x ≤ b` and `x ≥ 0`. Its columns are, in order, the
decision variables, one slack variable per row, and one artificial variable per row that
starts with a negative bound; the right-hand sides stand apart. Each row is an equation
and names its **basic** variable, the one that the row determines when all others are
zero. The **price** row expresses the objective: its right-hand side is the objective's
current value, and a negative coefficient marks a variable whose increase would improve
it.

A row with a negative bound is negated, so that all right-hand sides start out
non-negative. That leaves its slack variable with a negative sign, so an artificial
variable is basic there instead, and the tableau describes the program only once the
artificial variables have been driven to zero. While that happens the true price row is
**carried** along: it takes part in every pivot and in no decision.

All accesses are total. A column beyond the width of a row reads as zero, so that no
operation depends on a proof that indices are in range.
-/

namespace LatticeLP

/-- Coefficients and a right-hand side. -/
structure Equation (K : Type) where
  /-- One coefficient per column. -/
  coeffs : List K
  /-- The right-hand side. -/
  rhs : K
  deriving Repr, BEq, DecidableEq

/-- A row of a tableau: an equation and the variable it determines. -/
structure Row (K : Type) extends Equation K where
  /-- The column of the basic variable. -/
  basic : Nat
  deriving Repr, BEq, DecidableEq

/-- A linear program in the course of its solution. -/
structure Tableau (K : Type) where
  /-- The number of decision variables. -/
  decisions : Nat
  /-- The number of artificial variables. -/
  artificials : Nat
  /-- One row per constraint. -/
  rows : List (Row K)
  /-- The objective that is being maximised. -/
  price : Equation K
  /-- Objectives that are carried along. -/
  carried : List (Equation K)
  deriving Repr, BEq, DecidableEq

/-- Why lists do not have the shape of a linear program. -/
inductive ShapeError where
  /-- Rows and bounds differ in number. -/
  | boundCount (rows bounds : Nat)
  /-- A row has another length than the objective. -/
  | rowLength (row found expected : Nat)
  deriving Repr, DecidableEq

/-- The wording of a shape error. -/
def ShapeError.message : ShapeError → String
  | .boundCount rows bounds => s!"{rows} rows but {bounds} bounds"
  | .rowLength row found expected =>
    s!"row {row} has {found} coefficients, expected {expected}"

variable {K : Type} [Scalar K]

/-- The coefficient in a column. -/
def Equation.coeff (e : Equation K) (column : Nat) : K :=
  e.coeffs.getD column 0

/-- A list of zeros with one other entry. -/
def unitList (length position : Nat) (value : K) : List K :=
  (List.range length).map fun j => if j = position then value else 0

namespace Tableau

/-- How many rows have a negative bound. -/
def negatives (system : List (Equation K)) : Nat :=
  system.countP fun e => e.rhs < 0

/-- The row with which a constraint enters a tableau. A constraint with a negative bound
is negated and gets the artificial variable that is `rank`-th in order. -/
def startRow (decisions height artificials index rank : Nat) (e : Equation K) : Row K :=
  let negative := decide (e.rhs < 0)
  let sign : K := if negative then -1 else 1
  { coeffs := e.coeffs.map (sign * ·) ++ unitList height index sign ++
      (if negative then unitList artificials rank 1 else List.replicate artificials 0)
    rhs := sign * e.rhs
    basic := if negative then decisions + height + rank else decisions + index }

/-- **The tableau of a program** before any pivot: slack variables are basic where the
bound allows it and artificial variables elsewhere. -/
def start (objective : List K) (system : List (Equation K)) : Tableau K where
  decisions := objective.length
  artificials := negatives system
  rows := system.zipIdx.map fun (e, index) =>
    startRow objective.length system.length (negatives system) index
      (negatives (system.take index)) e
  price :=
    { coeffs := objective.map (- ·) ++ List.replicate (system.length + negatives system) 0
      rhs := 0 }
  carried := []

/-- The tableau of a program in dense form, whose rows must be as long as the
objective. -/
def ofDense? (objective : List K) (matrix : List (List K)) (bounds : List K) :
    Except ShapeError (Tableau K) :=
  if matrix.length = bounds.length then
    match matrix.zipIdx.find? fun (row, _) => row.length ≠ objective.length with
    | some (row, index) => .error (.rowLength index row.length objective.length)
    | none => .ok (start objective (List.zipWith Equation.mk matrix bounds))
  else .error (.boundCount matrix.length bounds.length)

/-! ## Reading a tableau -/

/-- The number of rows. -/
def height (t : Tableau K) : Nat :=
  t.rows.length

/-- The first artificial column, and the number of columns in front of it. -/
def firstArtificial (t : Tableau K) : Nat :=
  t.decisions + t.height

/-- The value of a variable: the right-hand side of the row it is basic in, or zero. -/
def valueAt (t : Tableau K) (column : Nat) : K :=
  t.rows.foldl (fun v row => if row.basic = column then row.rhs else v) 0

/-- **The current values of the decision variables.** -/
def solution (t : Tableau K) : List K :=
  (List.range t.decisions).map t.valueAt

/-- **The current value of the objective.** -/
def value (t : Tableau K) : K :=
  t.price.rhs

end Tableau

end LatticeLP

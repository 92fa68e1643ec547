import LatticeLP.Tableau.Basic

/-!
# Pivots

A **pivot** exchanges a basic variable for another one. The pivot row is divided by its
entry in the entering column, and a multiple of it is subtracted from every other row,
from the price row and from the carried objectives, so that the entering variable
disappears from all of them. Rows that do not mention the entering variable stay
untouched.
-/

namespace LatticeLP

variable {K : Type} [Scalar K]

namespace Equation

/-- The equation with both sides divided by a number. -/
def divide (e : Equation K) (scale : K) : Equation K :=
  ⟨e.coeffs.map (· / scale), e.rhs / scale⟩

/-- The equation with another one subtracted. -/
def subtract (e p : Equation K) : Equation K :=
  ⟨List.zipWith (fun v x => v - x) e.coeffs p.coeffs, e.rhs - p.rhs⟩

/-- The equation with a multiple of another one subtracted. -/
def subtractMultiple (e : Equation K) (factor : K) (p : Equation K) : Equation K :=
  ⟨List.zipWith (fun v x => v - factor * x) e.coeffs p.coeffs, e.rhs - factor * p.rhs⟩

/-- The equation with a column eliminated by means of a pivot row. -/
def eliminate (e : Equation K) (column : Nat) (p : Equation K) : Equation K :=
  let factor := e.coeff column
  if factor == 0 then e else e.subtractMultiple factor p

end Equation

/-- A place in a tableau. -/
structure Cell where
  /-- The row, whose basic variable leaves. -/
  row : Nat
  /-- The column, whose variable enters. -/
  column : Nat
  deriving Repr, DecidableEq

namespace Tableau

/-- **Pivot at a cell.** A cell outside the tableau leaves it unchanged. -/
def pivot (t : Tableau K) (cell : Cell) : Tableau K :=
  match t.rows[cell.row]? with
  | none => t
  | some row =>
    let p := row.toEquation.divide (row.coeff cell.column)
    { t with
      rows := t.rows.mapIdx fun i other =>
        if i = cell.row then { p with basic := cell.column }
        else { other.toEquation.eliminate cell.column p with basic := other.basic }
      price := t.price.eliminate cell.column p
      carried := t.carried.map (·.eliminate cell.column p) }

/-- Pivot at several cells in turn. -/
def pivots (t : Tableau K) (cells : List Cell) : Tableau K :=
  cells.foldl pivot t

@[simp] theorem decisions_pivot (t : Tableau K) (cell : Cell) :
    (t.pivot cell).decisions = t.decisions := by
  unfold pivot; split <;> rfl

@[simp] theorem artificials_pivot (t : Tableau K) (cell : Cell) :
    (t.pivot cell).artificials = t.artificials := by
  unfold pivot; split <;> rfl

@[simp] theorem height_pivot (t : Tableau K) (cell : Cell) :
    (t.pivot cell).height = t.height := by
  unfold pivot height; split <;> simp

@[simp] theorem firstArtificial_pivot (t : Tableau K) (cell : Cell) :
    (t.pivot cell).firstArtificial = t.firstArtificial := by
  simp [firstArtificial]

end Tableau

end LatticeLP

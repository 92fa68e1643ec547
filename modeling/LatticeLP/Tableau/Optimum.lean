import LatticeLP.Decimal.Rounded
import LatticeLP.Plane.Program
import LatticeLP.Plane.Text
import LatticeLP.Tableau.Optimize

/-!
# The exact optimum of a planar program

A planar program is solved by the tableau of its constraints. Its optimum is the point
that the decision variables describe when the optimization ends, with the value and the
number of pivots read off the same tableau.
-/

namespace LatticeLP

/-- The optimum of a program. -/
structure Optimum (K : Type) where
  /-- Where it is attained. -/
  point : Point K
  /-- The objective there. -/
  value : K
  /-- The number of pivots it took. -/
  pivots : Nat
  deriving Repr, BEq, DecidableEq

variable {K : Type} [Scalar K]

/-- The optimum that an optimization arrived at, read as that of a planar program. -/
def Optimization.optimum? (o : Optimization K) : Except (SolveError K) (Optimum K) :=
  o.verdict.map fun _ =>
    { point := ⟨o.tableau.valueAt 0, o.tableau.valueAt 1⟩, value := o.tableau.value,
      pivots := o.pivots }

namespace Program

/-- The tableau of a planar program. -/
def tableau (p : Program K) : Tableau K :=
  Tableau.start p.coefficients
    (p.constraints.map fun c => ⟨[c.form.a, c.form.b], c.bound⟩)

/-- **The optimum of a program.** -/
def optimum? (p : Program K) (o : Options K) : Except (SolveError K) (Optimum K) :=
  (p.tableau.optimize o).optimum?

end Program

/-! ## Text -/

/-- An optimum by its point and value. -/
def Optimum.text (o : Optimum Float) : String :=
  o.point.text ++ " f=" ++ fixedText 4 o.value

/-- The wording of a solve error. -/
def SolveError.message : SolveError Float → String
  | .infeasible shortfall =>
    "program is infeasible (constraint violation " ++ scientificText 3 shortfall ++ ")"
  | .unbounded column => s!"program is unbounded along variable {column}"
  | .exhausted budget => s!"no optimum within {budget} pivots"

end LatticeLP

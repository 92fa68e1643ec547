import LatticeLP.Plane.Region

/-!
# Planar linear programs

A program asks for the greatest value of a linear form, its **objective**, over a
region. Programs come in two written forms: as parts – an objective and a list of
constraints – and in the dense form of numerical solvers, a coefficient list, a matrix
and a list of bounds. Either way all numbers have to be finite; the dense form must
moreover have the shape of a program in two variables.

When several things are wrong, the first of these is reported: the length of the
objective, the number of bounds, the first row of a wrong length, the objective's
numbers, the first constraint whose numbers are not finite.
-/

namespace LatticeLP

/-- Maximise a linear form over a region. -/
structure Program (K : Type) where
  /-- The form to be maximised. -/
  objective : LinearForm K
  /-- The points it is maximised over. -/
  region : Region K
  deriving Repr, BEq, DecidableEq

/-- Why numbers do not describe a planar program. -/
inductive ProgramError where
  /-- The objective does not have two coefficients. -/
  | objectiveLength (found : Nat)
  /-- Matrix and bounds differ in length. -/
  | boundCount (rows bounds : Nat)
  /-- A matrix row does not have two coefficients. -/
  | rowLength (row found : Nat)
  /-- The objective has a coefficient that is not finite. -/
  | objectiveNotFinite
  /-- A constraint has a number that is not finite. -/
  | constraintNotFinite (index : Nat)
  deriving Repr, DecidableEq

/-- The wording of a program error. -/
def ProgramError.message : ProgramError → String
  | .objectiveLength found => s!"objective has {found} coefficients, expected 2"
  | .boundCount rows bounds => s!"constraint matrix has {rows} rows but {bounds} bounds"
  | .rowLength row found => s!"constraint row {row} has {found} coefficients, expected 2"
  | .objectiveNotFinite => "objective coefficients must be finite"
  | .constraintNotFinite index => s!"constraint {index} has non-finite coefficients"

namespace Program

variable {K : Type} [Scalar K]

/-- The constraints of a program. -/
def constraints (p : Program K) : List (Constraint K) :=
  p.region.constraints

/-- The objective at a point. -/
@[specialize] def value (p : Program K) (q : Point K) : K :=
  p.objective.value q

/-- The point lies in the program's region. -/
def Feasible (p : Program K) (q : Point K) : Prop :=
  p.region.Feasible q

@[specialize] instance (p : Program K) (q : Point K) : Decidable (p.Feasible q) :=
  inferInstanceAs (Decidable (p.region.Feasible q))

/-- **A program from its parts**, all of whose numbers must be finite. -/
def ofParts? (objective : LinearForm K) (constraints : List (Constraint K)) :
    Except ProgramError (Program K) :=
  if objective.isFinite then
    match constraints.findIdx? (fun c => !c.isFinite) with
    | some index => .error (.constraintNotFinite index)
    | none => .ok ⟨objective, ⟨constraints⟩⟩
  else .error .objectiveNotFinite

/-- The constraint that a matrix row and its bound describe. -/
def ofRow? (index : Nat) (row : List K) (bound : K) :
    Except ProgramError (Constraint K) :=
  match row with
  | [a, b] => .ok ⟨⟨a, b⟩, bound⟩
  | _ => .error (.rowLength index row.length)

/-- **A program from the dense form.** -/
def ofDense? (objective : List K) (matrix : List (List K)) (bounds : List K) :
    Except ProgramError (Program K) :=
  match objective with
  | [a, b] =>
    if matrix.length = bounds.length then do
      let constraints ← (matrix.zip bounds).zipIdx.mapM fun ((row, bound), index) =>
        ofRow? index row bound
      ofParts? ⟨a, b⟩ constraints
    else .error (.boundCount matrix.length bounds.length)
  | _ => .error (.objectiveLength objective.length)

/-- The objective's coefficients as a list. -/
def coefficients (p : Program K) : List K :=
  [p.objective.a, p.objective.b]

/-- The matrix of the dense form, one row per constraint. -/
def matrix (p : Program K) : List (List K) :=
  p.constraints.map fun c => [c.form.a, c.form.b]

/-- The bounds of the dense form. -/
def bounds (p : Program K) : List K :=
  p.constraints.map (·.bound)

/-- The program that is solved when no other is given: maximise `10x + 8y` subject to
`x + 2y ≤ 10`, `x + 3y ≤ 12` and `5x + 2y ≤ 18`. -/
def sample : Program K where
  objective := ⟨10.0, 8.0⟩
  region := ⟨[⟨⟨1.0, 2.0⟩, 10.0⟩, ⟨⟨1.0, 3.0⟩, 12.0⟩, ⟨⟨5.0, 2.0⟩, 18.0⟩]⟩

end Program

end LatticeLP

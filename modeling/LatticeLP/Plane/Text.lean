import LatticeLP.Decimal.Numeral
import LatticeLP.Decimal.Shortest
import LatticeLP.Plane.Program
import LatticeLP.Text.Blank
import LatticeLP.Text.Quoted

/-!
# Points, constraints and programs as text

A point shows four decimal places; coefficients and bounds show every digit they need.
Constraints and objectives are also read, from numerals separated by commas: `a,b,rhs`
is a constraint and `a,b` an objective. Blanks around a numeral do not matter. An
unreadable numeral is reported before a wrong number of them.
-/

namespace LatticeLP

/-- A point with four decimal places. -/
def Point.text (p : Point Float) : String :=
  "(" ++ fixedText 4 p.x ++ ", " ++ fixedText 4 p.y ++ ")"

/-- A linear form as a sum in `x` and `y`. -/
def LinearForm.text (f : LinearForm Float) : String :=
  numberText f.a ++ "x " ++ signedText f.b ++ "y"

/-- A constraint as an inequality. -/
def Constraint.text (c : Constraint Float) : String :=
  c.form.text ++ " ≤ " ++ numberText c.bound

/-- A program on a line for the objective, one for each constraint, and one for the
quadrant. -/
def Program.text (p : Program Float) : String :=
  "maximize " ++ p.objective.text ++ "\n" ++
    String.join (p.constraints.map fun c => "  " ++ c.text ++ "\n") ++ "  x, y ≥ 0"

/-! ## Reading -/

/-- What a text was read as. -/
inductive Subject where
  /-- An objective, `a,b`. -/
  | objective
  /-- A constraint, `a,b,rhs`. -/
  | constraint
  deriving Repr, DecidableEq

/-- The name of what was read. -/
def Subject.name : Subject → String
  | .objective => "objective"
  | .constraint => "constraint"

/-- The expected form of what was read. -/
def Subject.form : Subject → String
  | .objective => "a,b"
  | .constraint => "a,b,rhs"

/-- What is wrong with a text. -/
inductive TextFault where
  /-- Some part of it is no numeral. -/
  | numeral (cause : NumeralError)
  /-- There are too few or too many parts. -/
  | arity
  deriving Repr, DecidableEq

/-- A text that could not be read. -/
structure TextError where
  /-- What it should have been. -/
  subject : Subject
  /-- The text. -/
  text : String
  /-- What is wrong with it. -/
  fault : TextFault
  deriving Repr, DecidableEq

/-- The wording of a text error. -/
def TextError.message (e : TextError) : String :=
  "invalid " ++ e.subject.name ++ " " ++ Text.quoted e.text ++ ": " ++
    match e.fault with
    | .numeral cause => cause.message
    | .arity => "expected " ++ e.subject.form

/-- The numbers of a text, in order. The first part that is no numeral is reported. -/
def readNumbers? (subject : Subject) (text : String) : Except TextError (List Float) :=
  match (Text.fields text).mapM readNumber? with
  | .ok values => .ok values
  | .error cause => .error ⟨subject, text, .numeral cause⟩

/-- **Read a constraint** `a,b,rhs`. -/
def Constraint.read? (text : String) : Except TextError (Constraint Float) := do
  match ← readNumbers? .constraint text with
  | [a, b, bound] => .ok ⟨⟨a, b⟩, bound⟩
  | _ => .error ⟨.constraint, text, .arity⟩

/-- **Read an objective** `a,b`. -/
def LinearForm.read? (text : String) : Except TextError (LinearForm Float) := do
  match ← readNumbers? .objective text with
  | [a, b] => .ok ⟨a, b⟩
  | _ => .error ⟨.objective, text, .arity⟩

end LatticeLP

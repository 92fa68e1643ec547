import LatticeLP.Json.Document
import LatticeLP.Learner.Basic
import LatticeLP.Tableau.Optimum

/-!
# Values as documents

Members appear in the order in which the types declare their fields. A region is the
list of its constraints, and a linear form the list of its coefficients.
-/

namespace LatticeLP

/-- A linear form is the list of its coefficients. -/
def LinearForm.toJson (f : LinearForm Float) : Json :=
  .array [.ofFloat f.a, .ofFloat f.b]

/-- A point names its coordinates. -/
def Point.toJson (p : Point Float) : Json :=
  .object [("x", .ofFloat p.x), ("y", .ofFloat p.y)]

/-- A constraint names its coefficients and its bound. -/
def Constraint.toJson (c : Constraint Float) : Json :=
  .object [("coefficients", c.form.toJson), ("bound", .ofFloat c.bound)]

/-- A region is the list of its constraints. -/
def Region.toJson (r : Region Float) : Json :=
  .array (r.constraints.map Constraint.toJson)

/-- A program names its objective and its region. -/
def Program.toJson (p : Program Float) : Json :=
  .object [("objective", p.objective.toJson), ("region", p.region.toJson)]

/-- An optimum names its point, its value and its pivots. -/
def Optimum.toJson (o : Optimum Float) : Json :=
  .object [("point", o.point.toJson), ("value", .ofFloat o.value),
    ("iterations", .ofNat o.pivots)]

/-- A key names its integers and its precision. -/
def Key.toJson (k : Key) : Json :=
  .object [("x", .ofInt k.x), ("y", .ofInt k.y), ("precision", .ofNat k.precision)]

/-- What was learned names the key, its point, the estimate and the objective. -/
def Learned.toJson (l : Learned Float) : Json :=
  .object
    [("key", l.key.toJson), ("point", l.point.toJson), ("estimate", .ofFloat l.estimate),
     ("objective", .ofFloat l.objective)]

/-- Parameters name all eight. -/
def Params.toJson (p : Params Float) : Json :=
  .object [("epsilon", .ofFloat p.epsilon), ("alpha", .ofFloat p.alpha),
    ("gamma", .ofFloat p.gamma),
    ("step", .ofFloat p.step), ("episodes", .ofNat p.episodes), ("steps", .ofNat p.steps),
    ("precision", .ofNat p.precision), ("seed", .ofNat p.seed.toNat)]

/-- A span names its seconds and its nanoseconds. -/
def Span.toJson (s : Span) : Json :=
  .object [("secs", .ofNat s.seconds), ("nanos", .ofNat s.nanoseconds)]

/-- A tally names its counters and the time they took. -/
def Tally.toJson (t : Tally) (elapsed : Span) : Json :=
  .object [("episodes", .ofNat t.episodes), ("steps", .ofNat t.steps),
    ("accepted", .ofNat t.accepted),
    ("rejected", .ofNat t.rejected), ("states", .ofNat t.states),
    ("elapsed", elapsed.toJson)]

/-- A move is its name. -/
def Move.toJson (m : Move) : Json :=
  .string m.name

end LatticeLP

import LatticeLP.Comparison.Basic
import LatticeLP.Json.Encode
import LatticeLP.Text.Columns

/-!
# Reports

A comparison is reported as a table or as a JSON document. The table shows the program,
a row for either method, the gap, and the counters of the run; the gap is also given as
a share of the optimum unless the optimum is too close to zero for that. On a terminal
the decisive cells are coloured.

The document holds the same facts and the number of accepted positions, with the members
of every object in the order of their keys.
-/

namespace LatticeLP

/-- A colour of a terminal. -/
inductive Colour where
  /-- The exact answer. -/
  | green
  /-- The learned answer. -/
  | yellow
  /-- The lack of an answer. -/
  | red
  deriving Repr, DecidableEq

/-- The number by which a terminal knows a colour. -/
def Colour.code : Colour → Nat
  | .red => 31
  | .green => 32
  | .yellow => 33

/-- A text in a colour, if colours are wanted. -/
def Colour.paint (colour : Colour) (coloured : Bool) (text : String) : String :=
  if coloured then s!"\x1b[{colour.code}m" ++ text ++ "\x1b[0m" else text

namespace Comparison

/-! ## The table -/

/-- The line above the heading of the table. -/
def topRule : String :=
  "┌────────────┬──────────────────────┬────────────┬────────────┐"

/-- The line below the heading of the table. -/
def middleRule : String :=
  "├────────────┼──────────────────────┼────────────┼────────────┤"

/-- The line below the table. -/
def bottomRule : String :=
  "└────────────┴──────────────────────┴────────────┴────────────┘"

/-- A line of the table from its cells, which are as wide as their columns. -/
def rowLine (method solution objective estimate : String) : String :=
  "│ " ++ method ++ " │ " ++ solution ++ " │ " ++ objective ++ " │ " ++ estimate ++ " │"

/-- A cell of the column of methods. -/
def methodCell : String → String := Text.padRight 10

/-- A cell of the column of solutions. -/
def solutionCell : String → String := Text.padRight 20

/-- A cell of a column of numbers. -/
def numberCell : String → String := Text.padLeft 10

/-- The heading of the table. -/
def headingLine : String :=
  rowLine (methodCell "Method") (solutionCell "Solution") (numberCell "Objective")
    (numberCell "Estimate")

/-- The row of the exact optimum. -/
def exactLine (coloured : Bool) (exact : Optimum Float) : String :=
  rowLine (methodCell "Simplex") (solutionCell exact.point.text)
    (Colour.green.paint coloured (numberCell (fixedText 4 exact.value))) (numberCell "-")

/-- The row of what was learned. -/
def learnedLine (coloured : Bool) : Option (Learned Float) → String
  | some l =>
    rowLine (methodCell "Q-learning") (solutionCell l.key.text)
      (Colour.yellow.paint coloured (numberCell (fixedText 4 l.objective)))
      (numberCell (fixedText 4 l.estimate))
  | none =>
    rowLine (methodCell "Q-learning")
      (Colour.red.paint coloured (solutionCell "no accepted move"))
      (numberCell "-") (numberCell "-")

/-- The least magnitude of an optimum of which a gap is a meaningful share. -/
def leastScale : Float := 1e-9

/-- The line about the gap, if something was learned. -/
def gapLine (c : Comparison Float) : List String :=
  match c.gap? with
  | none => []
  | some gap =>
    let scale := Scalar.abs c.exact.value
    let share :=
      if leastScale ≤ scale
        then " (" ++ fixedText 2 (100.0 * gap / scale) ++ "% of optimum)" else ""
    ["gap " ++ fixedText 4 gap ++ share]

/-- **The comparison as a table.** -/
def table (coloured : Bool) (c : Comparison Float) : String :=
  "\n".intercalate <|
    [c.program.text, topRule, headingLine, middleRule, exactLine coloured c.exact,
      learnedLine coloured c.learned, bottomRule] ++ c.gapLine ++ [c.tally.text c.elapsed]

/-! ## The document -/

/-- What was learned, or the absence of it. -/
def learnedJson (c : Comparison Float) : Json :=
  match c.learned with
  | some l => l.toJson
  | none => .null

/-- The gap, or the absence of it. -/
def gapJson (c : Comparison Float) : Json :=
  match c.gap? with
  | some gap => .ofFloat gap
  | none => .null

/-- The comparison with its members in the order of declaration. The path is left out. -/
def toJson (c : Comparison Float) : Json :=
  .object
    [("problem", c.program.toJson), ("learned", c.learnedJson), ("exact", c.exact.toJson),
     ("stats", c.tally.toJson c.elapsed)]

/-- **The comparison as a document**, with the gap and the number of accepted
positions. -/
def document (c : Comparison Float) : Json :=
  Json.sorted <| .object
    [("problem", c.program.toJson), ("exact", c.exact.toJson), ("learned", c.learnedJson),
      ("gap", c.gapJson), ("stats", c.tally.toJson c.elapsed),
      ("visited", .ofNat c.trajectory.length)]

end Comparison

end LatticeLP

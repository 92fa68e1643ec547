import LatticeLP.Tableau.Ascent

/-!
# The two-phase simplex method

A tableau without artificial variables is optimised by one ascent. Otherwise a first
phase minimises the **shortfall**, the sum of the artificial variables: if it cannot be
brought to zero, the program has no feasible point. Artificial variables that stay basic
at zero are then **evicted** by pivots that change no right-hand side, and a second
phase maximises the objective over the columns in front of the artificial ones.

One budget of pivots covers both phases. An `Optimization` records the pivots of each
phase beside the tableau and the verdict; the number of pivots it reports is that of the
two ascents.
-/

namespace LatticeLP

/-- What limits an optimization. -/
structure Options (K : Type) where
  /-- Magnitudes up to this count as zero. -/
  tolerance : K
  /-- The number of pivots that may be made. -/
  budget : Nat
  deriving Repr, BEq, DecidableEq

/-- Why a program has no optimum, or none that was found. -/
inductive SolveError (K : Type) where
  /-- No point satisfies all constraints; the least shortfall is given. -/
  | infeasible (shortfall : K)
  /-- The objective grows without bound along a variable. -/
  | unbounded (column : Nat)
  /-- The budget did not suffice. -/
  | exhausted (budget : Nat)
  deriving Repr, BEq, DecidableEq

/-- The record of an optimization. -/
structure Optimization (K : Type) where
  /-- The tableau at the end. -/
  tableau : Tableau K
  /-- The pivots of the first phase. -/
  repair : List Cell
  /-- The pivots that evict artificial variables, once a first phase has ended at a
  feasible vertex. -/
  evictions : Option (List Cell)
  /-- The pivots of the second phase. -/
  ascent : List Cell
  /-- Whether an optimum was found, or why not. -/
  verdict : Except (SolveError K) Unit

variable {K : Type} [Scalar K]

/-- The limits when no others are given. -/
def Options.standard : Options K where
  tolerance := 1e-9
  budget := 1000

/-- The reason for which an ascent within a budget ended, as an error if it is one. -/
def Stop.verdict (budget : Nat) : Stop → Except (SolveError K) Unit
  | .optimal => .ok ()
  | .unbounded column => .error (.unbounded column)
  | .exhausted => .error (.exhausted budget)

namespace Tableau

/-- The price row of the shortfall: artificial columns cost one, and rows in which an
artificial variable is basic are subtracted so that basic columns price zero. -/
def shortfallPrice (t : Tableau K) : Equation K :=
  let columns : Equation K :=
    { coeffs := List.replicate t.firstArtificial 0 ++ List.replicate t.artificials 1
      rhs := 0 }
  (t.rows.filter (t.firstArtificial ≤ ·.basic)).foldl
    (fun e row => e.subtract row.toEquation) columns

/-- Put the shortfall in the place of the objective, which is carried along. -/
def withShortfall (t : Tableau K) : Tableau K :=
  { t with price := t.shortfallPrice, carried := t.price :: t.carried }

/-- Put the objective carried last back in its place. -/
def withObjective (t : Tableau K) : Tableau K :=
  match t.carried with
  | [] => t
  | price :: carried => { t with price, carried }

/-- The cell at which a row gives up a basic artificial variable: the first entry in
front of the artificial columns that is not zero. A row without one is redundant and
keeps its variable. -/
def eviction? (t : Tableau K) (tolerance : K) (row : Nat) : Option Cell := do
  let r ← t.rows[row]?
  guard (t.firstArtificial ≤ r.basic)
  let column ← (List.range t.firstArtificial).find? fun j =>
    tolerance < Scalar.abs (r.coeff j)
  pure ⟨row, column⟩

/-- Evict artificial variables from the given rows in turn. -/
def evictFrom (tolerance : K) : (rows : List Nat) → Tableau K → Tableau K × List Cell
  | [], t => (t, [])
  | row :: rows, t =>
    match t.eviction? tolerance row with
    | none => evictFrom tolerance rows t
    | some cell =>
      let (t, cells) := evictFrom tolerance rows (t.pivot cell)
      (t, cell :: cells)

/-- **Evict artificial variables from all rows.** -/
def evict (t : Tableau K) (tolerance : K) : Tableau K × List Cell :=
  evictFrom tolerance (List.range t.height) t

/-- The second phase, with what is left of the budget. -/
def maximize (t : Tableau K) (tolerance : K) (budget : Nat) (repair : List Cell)
    (evictions : Option (List Cell)) : Optimization K :=
  let phase := t.ascend t.firstArtificial tolerance budget
  { tableau := phase.tableau
    repair, evictions
    ascent := phase.cells
    verdict := phase.stop.verdict budget }

/-- **Optimise a tableau**: minimise the shortfall if there are artificial variables,
evict them, and maximise the objective. -/
def optimize (t : Tableau K) (o : Options K) : Optimization K :=
  if t.artificials = 0 then t.maximize o.tolerance o.budget [] none
  else
    let phase :=
      t.withShortfall.ascend (t.firstArtificial + t.artificials) o.tolerance o.budget
    let shortfall := -phase.tableau.value
    let repaired := phase.tableau.withObjective
    let failed (e : SolveError K) : Optimization K :=
      { tableau := repaired, repair := phase.cells, evictions := none, ascent := [],
        verdict := .error e }
    match phase.stop.verdict o.budget with
    | .error e => failed e
    | .ok () =>
      if shortfall ≤ o.tolerance then
        let (evicted, cells) := repaired.evict o.tolerance
        evicted.maximize o.tolerance (o.budget - phase.cells.length) phase.cells
          (some cells)
      else failed (.infeasible shortfall)

end Tableau

namespace Optimization

/-- **The number of pivots reported**: those of the two ascents. -/
def pivots (o : Optimization K) : Nat :=
  o.repair.length + o.ascent.length

/-- The number of pivots on success, or the reason of the failure. -/
def outcome (o : Optimization K) : Except (SolveError K) Nat :=
  o.verdict.map fun _ => o.pivots

/-- Every pivot that was made, in order. -/
def cells (o : Optimization K) : List Cell :=
  o.repair ++ o.evictions.getD [] ++ o.ascent

end Optimization

end LatticeLP

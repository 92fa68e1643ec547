import LatticeLP.Learner.Sweep
import LatticeLP.Tableau.Optimum

/-!
# Comparing what was learned with the optimum

The point of a run is how close it came to the exact optimum. A **comparison** holds
both answers with the program they answer, the path that was explored and the counters
of the run. Its **gap** is the optimum's value less the objective at the learned point.
-/

namespace LatticeLP

/-- A learned answer beside the exact one. -/
structure Comparison (K : Type) where
  /-- The program. -/
  program : Program K
  /-- The accepted positions, in order. -/
  trajectory : List (Point K)
  /-- What was learned, if any move was ever accepted. -/
  learned : Option (Learned K)
  /-- The exact optimum. -/
  exact : Optimum K
  /-- The counters of the run. -/
  tally : Tally
  /-- The time the run took. -/
  elapsed : Span

namespace Comparison

variable {K : Type} [Scalar K]

/-- Compare a run with an optimum. -/
def ofRun (run : Run K) (exact : Optimum K) : Comparison K where
  program := run.lesson.program
  trajectory := run.learner.trajectory
  learned := run.solution?
  exact := exact
  tally := run.learner.tally
  elapsed := run.elapsed

/-- **By how much the learned point falls short of the optimum.** -/
def gap? (c : Comparison K) : Option K :=
  c.learned.map fun l => c.exact.value - l.objective

end Comparison

end LatticeLP

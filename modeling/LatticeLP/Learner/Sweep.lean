import LatticeLP.Learner.Basic

/-!
# Sweeps

A **sweep** carries out the same lesson once for each of several seeds. The runs share
nothing. The best of them is the one with the highest estimate, the earliest in the list
among equals; a run that learned nothing does not take part.
-/

namespace LatticeLP

/-- Why a sweep cannot begin. -/
inductive SweepError (K : Type) where
  /-- The parameters are faulty. -/
  | params (cause : ParamsError K)
  /-- There are no seeds. -/
  | noSeeds
  deriving Repr, BEq, DecidableEq

/-- The wording of a sweep error. -/
def SweepError.message : SweepError Float → String
  | .params cause => cause.message
  | .noSeeds => "sweep needs at least one seed"

/-- A lesson for several seeds. -/
structure Sweep (K : Type) where
  /-- The lesson, whose own seed does not matter. -/
  lesson : Lesson K
  /-- The seeds. -/
  seeds : List UInt64
  deriving Repr, BEq, DecidableEq

/-- A completed run. -/
structure Run (K : Type) where
  /-- What was to be done. -/
  lesson : Lesson K
  /-- The learner when it was done. -/
  learner : Learner K
  /-- The time it took, which is zero when nobody looked at a clock. -/
  elapsed : Span

variable {K : Type} [Scalar K]

namespace Lesson

/-- The same lesson with another seed. -/
def withSeed (lesson : Lesson K) (seed : UInt64) : Lesson K :=
  { lesson with params := lesson.params.withSeed seed }

/-- Carry out a lesson. -/
@[specialize] def complete (lesson : Lesson K) : Run K :=
  ⟨lesson, lesson.run lesson.start, .zero⟩

/-- **Carry out a lesson on its own**, its parameters checked first. -/
@[specialize] def complete? (lesson : Lesson K) : Except (ParamsError K) (Run K) :=
  lesson.start?.map fun l => ⟨lesson, lesson.run l, .zero⟩

end Lesson

/-- The answer of a completed run. -/
def Run.solution? (r : Run K) : Option (Learned K) :=
  r.lesson.solution? r.learner

namespace Sweep

/-- **A sweep over given seeds**, of which there must be one. -/
def ofSeeds? (lesson : Lesson K) (seeds : List UInt64) :
    Except (SweepError K) (Sweep K) :=
  match lesson.params.check with
  | .error cause => .error (.params cause)
  | .ok () => if seeds.isEmpty then .error .noSeeds else .ok ⟨lesson, seeds⟩

/-- Seeds that follow each other, the least word coming after the greatest. -/
def consecutiveSeeds (first : UInt64) (count : Nat) : List UInt64 :=
  (List.range count).map fun i => first + i.toUInt64

/-- A sweep over seeds that follow the lesson's own. -/
def consecutive? (lesson : Lesson K) (count : Nat) : Except (SweepError K) (Sweep K) :=
  ofSeeds? lesson (consecutiveSeeds lesson.params.seed count)

/-- The runs of a sweep, one per seed, in the order of the seeds. -/
def runs (s : Sweep K) : List (Run K) :=
  s.seeds.map fun seed => (s.lesson.withSeed seed).complete

/-- **Carry out a sweep.** Every run checks its parameters again, and the first fault
ends the sweep. -/
def runs? (s : Sweep K) : Except (ParamsError K) (List (Run K)) :=
  s.seeds.mapM fun seed => (s.lesson.withSeed seed).complete?

/-- The choice between the best run so far and the next one. -/
def better (best : Option (Run K × K)) (run : Run K) : Option (Run K × K) :=
  match run.solution?, best with
  | none, _ => best
  | some learned, none => some (run, learned.estimate)
  | some learned, some (_, greatest) =>
    if learned.estimate ≤ greatest then best else some (run, learned.estimate)

/-- **The best of several runs.** -/
def best? (runs : List (Run K)) : Option (Run K) :=
  (runs.foldl better none).map (·.1)

end Sweep

end LatticeLP

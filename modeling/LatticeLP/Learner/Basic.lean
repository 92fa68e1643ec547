import LatticeLP.Learner.Learned
import LatticeLP.Learner.Params
import LatticeLP.Learner.Policy
import LatticeLP.Learner.Schedule
import LatticeLP.Learner.Tally

/-!
# The learner

A learner explores the region of a program by walks from the origin and records in a
table what each position is worth. A run is a fixed number of **episodes** of a fixed
number of **steps**. In each step a move is chosen; if it leads to a feasible point the
learner goes there and learns from it, otherwise it stays, and the step is spent either
way.

The only reward is the objective at the last step of an episode. An accepted move from
key `s` to key `s'` with reward `r` changes one estimate:

    Q[s] := (1 - α) Q[s] + α (r + γ Q[s'])

What a run is to do, its `Lesson`, never changes; everything that changes is in the
`Learner`. One call of `Lesson.advance` makes one transition: it opens an episode, takes
one step, or closes an episode. A completed run no longer changes.
-/

namespace LatticeLP

/-- What a learner is asked to do. -/
structure Lesson (K : Type) where
  /-- The program whose region is explored. -/
  program : Program K
  /-- The parameters of the run. -/
  params : Params K
  /-- How the exploration rate depends on the episode. -/
  schedule : Schedule
  deriving Repr, BEq, DecidableEq

/-- Where a run stands in its episodes. -/
inductive Phase where
  /-- The next episode is about to begin at the origin. -/
  | episodeStart
  /-- The episode has steps left. -/
  | stepInProgress
  /-- The steps of the episode are spent. -/
  | episodeEnd
  /-- All episodes are over. -/
  | runComplete
  deriving Repr, DecidableEq

/-- The outcome of a step, with the position that was tried. -/
inductive Step (K : Type) where
  /-- The position was feasible and was taken. -/
  | accepted (candidate : Point K)
  /-- The position was not feasible and was discarded. -/
  | rejected (candidate : Point K)
  deriving Repr, BEq, DecidableEq

/-- The position that a step tried. -/
def Step.candidate {K : Type} : Step K → Point K
  | accepted p => p
  | rejected p => p

/-- Whether a step was accepted. -/
def Step.isAccepted {K : Type} : Step K → Bool
  | accepted _ => true
  | rejected _ => false

/-- The state of a run. -/
structure Learner (K : Type) where
  /-- The estimates. -/
  table : Table K
  /-- All accepted positions of all episodes, the newest first. -/
  trail : List (Point K)
  /-- The random stream. -/
  random : RandomStream
  /-- Where the run stands. -/
  phase : Phase
  /-- The current position. -/
  position : Point K
  /-- Completed episodes. -/
  episode : Nat
  /-- Steps taken in the current episode. -/
  step : Nat
  /-- The counters. -/
  tally : Tally

namespace Learner

variable {K : Type} [Scalar K]

/-- A learner that has not begun. -/
def ofSeed (seed : UInt64) : Learner K where
  table := ∅
  trail := []
  random := .ofSeed seed
  phase := .episodeStart
  position := .origin
  episode := 0
  step := 0
  tally := .zero

/-- All accepted positions in the order in which they were reached. -/
def trajectory (l : Learner K) : List (Point K) :=
  l.trail.reverse

end Learner

namespace Lesson

variable {K : Type} [Scalar K]

/-- A run begins with the seed among the parameters. -/
def start (lesson : Lesson K) : Learner K :=
  .ofSeed lesson.params.seed

/-- **Begin a run**, whose parameters are checked first. -/
def start? (lesson : Lesson K) : Except (ParamsError K) (Learner K) :=
  lesson.params.check.map fun _ => lesson.start

/-- How the lesson turns moves into keys. -/
@[inline] def policy (lesson : Lesson K) : Policy K :=
  ⟨lesson.params.precision, lesson.params.step⟩

/-- The exploration rate of the current episode. -/
@[specialize] def epsilon (lesson : Lesson K) (l : Learner K) : K :=
  lesson.schedule.rate lesson.params.epsilon l.episode

/-- The reward at a position: the objective on the last step of the episode and nothing
before. -/
@[specialize] def reward (lesson : Lesson K) (step : Nat) (candidate : Point K) : K :=
  if step + 1 = lesson.params.steps then lesson.program.value candidate else 0

/-- The estimate of `s` after a move to `s'` with reward `r`. -/
@[specialize] def estimate (lesson : Lesson K) (t : Table K) (s s' : Key) (r : K) : K :=
  (1 - lesson.params.alpha) * t.get s + lesson.params.alpha
    * (r + lesson.params.gamma * t.get s')

/-- **Learn from an accepted move**: one estimate changes. -/
@[specialize] def learn (lesson : Lesson K) (t : Table K) (s
    s' : Key) (r : K) : Table K :=
  t.set s (lesson.estimate t s s' r)

/-- **Take one step** from the current position. -/
@[specialize] def explore (lesson : Lesson K) (l : Learner K) : Step K × Learner K :=
  let π := lesson.policy
  let (move, random) := π.select l.random l.table l.position (lesson.epsilon l) Move.all
  let candidate := move.apply l.position π.step
  if lesson.program.Feasible candidate then
    let s := Key.ofPoint π.precision l.position
    let s' := Key.ofPoint π.precision candidate
    (.accepted candidate,
      { l with
        table := lesson.learn l.table s s' (lesson.reward l.step candidate)
        trail := candidate :: l.trail
        random := random
        position := candidate
        tally :=
          { l.tally with steps := l.tally.steps + 1, accepted := l.tally.accepted + 1 } })
  else
    (.rejected candidate,
      { l with
        random := random
        tally :=
          { l.tally with steps := l.tally.steps + 1, rejected := l.tally.rejected + 1 } })

/-- **Make one transition.** A step is returned when one was taken. -/
@[specialize] def advance (lesson : Lesson K) (l : Learner K) :
    Option (Step K) × Learner K :=
  match l.phase with
  | .episodeStart =>
    (none, { l with position := .origin, step := 0, phase := .stepInProgress })
  | .stepInProgress =>
    let (outcome, l) := lesson.explore l
    let step := l.step + 1
    (some outcome,
      { l with
        step
        phase := if lesson.params.steps ≤ step then .episodeEnd else .stepInProgress })
  | .episodeEnd =>
    let episode := l.episode + 1
    (none,
      { l with
        episode
        tally := { l.tally with episodes := episode, states := l.table.size }
        phase :=
          if episode < lesson.params.episodes then .episodeStart else .runComplete })
  | .runComplete => (none, l)

/-- Make several transitions. -/
@[specialize] def advances (lesson : Lesson K) :
    (transitions : Nat) → Learner K → Learner K
  | 0, l => l
  | n + 1, l => advances lesson n (lesson.advance l).2

/-- The number of transitions in an episode: one opens it and one closes it. -/
def episodeLength (lesson : Lesson K) : Nat :=
  lesson.params.steps + 2

/-- **Complete a run.** The transitions of all episodes that are not completed are
enough; a run that completes earlier stays as it is. -/
@[specialize] def run (lesson : Lesson K) (l : Learner K) : Learner K :=
  lesson.advances ((lesson.params.episodes - l.episode) * lesson.episodeLength) l

/-- **The answer of a run**, nothing if no move was ever accepted. -/
def solution? (lesson : Lesson K) (l : Learner K) : Option (Learned K) :=
  Learned.ofTable? lesson.program l.table

end Lesson

end LatticeLP

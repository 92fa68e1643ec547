import LatticeLP.Decimal.Shortest
import LatticeLP.Lattice.Key

/-!
# Learning parameters

A run of the learner has eight parameters. They are checked once, before the run; the
first fault found is reported. Besides the range of each parameter the check bounds the
**reach** of a walk, the largest scaled coordinate that one episode can arrive at: keys
tell lattice points apart only as long as scaled coordinates are exact integers, which
in double precision ends at `2 ^ 53`.
-/

namespace LatticeLP

/-- The parameters of a run. -/
structure Params (K : Type) where
  /-- The exploration rate, a probability. -/
  epsilon : K
  /-- The learning rate: the weight of a new estimate against the old one. -/
  alpha : K
  /-- The discount of the value of the next position. -/
  gamma : K
  /-- The length of every move. -/
  step : K
  /-- The number of episodes. -/
  episodes : Nat
  /-- The number of steps in each episode. -/
  steps : Nat
  /-- The number of decimal digits that keys keep. -/
  precision : Nat
  /-- The seed of the random stream. -/
  seed : UInt64
  deriving Repr, BEq, DecidableEq

/-- What is wrong with parameters. -/
inductive ParamsError (K : Type) where
  /-- The exploration rate is no probability. -/
  | epsilon (value : K)
  /-- The learning rate is not positive or exceeds one. -/
  | alpha (value : K)
  /-- The discount is negative or not below one. -/
  | gamma (value : K)
  /-- The step length is not a positive finite number. -/
  | step (value : K)
  /-- There are no episodes. -/
  | episodes
  /-- There are no steps in an episode. -/
  | steps
  /-- More digits are kept than keys support. -/
  | precision (value : Nat)
  /-- A walk may leave the range in which keys are distinct. -/
  | reach (step : K) (steps precision : Nat)
  deriving Repr, BEq, DecidableEq

namespace Params

variable {K : Type} [Scalar K]

/-- The parameters of a run when no others are given. -/
def standard : Params K where
  epsilon := 1.0
  alpha := 0.9
  gamma := 0.9
  step := 0.3
  episodes := 500
  steps := 1000
  precision := 1
  seed := 0

/-- The greatest precision that keys support. -/
def greatestPrecision : Nat := 12

/-- The magnitude from which scaled coordinates need no longer be distinct integers,
`2 ^ 53`. -/
def keyRange : K := ((0x20000000000000 : Nat) : K)

/-- The largest scaled coordinate that one episode can arrive at. -/
def reach (p : Params K) : K :=
  p.step * (p.steps : K) * Key.scale p.precision

/-- **Check parameters**, reporting the first fault. -/
def check (p : Params K) : Except (ParamsError K) Unit :=
  if ¬(0 ≤ p.epsilon ∧ p.epsilon ≤ 1) then .error (.epsilon p.epsilon)
  else if ¬(0 < p.alpha ∧ p.alpha ≤ 1) then .error (.alpha p.alpha)
  else if ¬(0 ≤ p.gamma ∧ p.gamma < 1) then .error (.gamma p.gamma)
  else if ¬(Scalar.isFinite p.step = true ∧ 0 < p.step) then .error (.step p.step)
  else if p.episodes = 0 then .error .episodes
  else if p.steps = 0 then .error .steps
  else if greatestPrecision < p.precision then .error (.precision p.precision)
  else if ¬(p.reach < keyRange) then .error (.reach p.step p.steps p.precision)
  else .ok ()

/-- The parameters pass the check. -/
def Valid (p : Params K) : Prop :=
  p.check = .ok ()

/-- The same parameters with another seed. -/
def withSeed (p : Params K) (seed : UInt64) : Params K :=
  { p with seed }

end Params

/-- The wording of a parameter error. -/
def ParamsError.message : ParamsError Float → String
  | .epsilon value => "epsilon " ++ numberText value ++ " outside [0, 1]"
  | .alpha value => "alpha " ++ numberText value ++ " outside (0, 1]"
  | .gamma value => "gamma " ++ numberText value ++ " outside [0, 1)"
  | .step value => "grid step " ++ numberText value ++ " must be finite and positive"
  | .episodes => "episode count must be positive"
  | .steps => "steps per episode must be positive"
  | .precision value => s!"precision {value} exceeds {Params.greatestPrecision}"
  | .reach length count digits =>
    "grid step " ++ numberText length
      ++ s!" over {count} steps at precision {digits} overflows state keys"

end LatticeLP

import LatticeLP.Scalar

/-!
# Exploration schedules

How often a learner explores is a probability that may change from episode to episode. A
**constant** schedule keeps the configured rate. A **decaying** schedule multiplies it
by a fixed factor after each episode and stops at a floor, or at the configured rate if
that is lower still.
-/

namespace LatticeLP

/-- How the exploration rate depends on the episode. -/
inductive Schedule where
  /-- The configured rate in every episode. -/
  | constant
  /-- A rate that decreases from episode to episode. -/
  | decaying
  deriving Repr, DecidableEq

namespace Schedule

variable {K : Type} [Scalar K]

/-- The factor by which a decaying rate changes per episode. -/
def decay : K := 0.99

/-- The rate at which decay stops. -/
def floor : K := 0.05

/-- The greatest episode that decay still tells apart from later ones. -/
def lastDistinct : Nat := 0x7fffffff

/-- The exponent of decay in an episode, a signed number of 32 bits. -/
def exponent (episode : Nat) : Int :=
  Int.bmod (min episode lastDistinct : Nat) 0x100000000

/-- **No exponent is taken for a negative one**: episodes are counted up to the greatest
number of 32 bits with a sign, and not beyond it. -/
theorem exponent_eq (episode : Nat) :
    exponent episode = (min episode lastDistinct : Nat) := by
  have hle : min episode lastDistinct ≤ lastDistinct := Nat.min_le_right _ _
  unfold exponent
  generalize min episode lastDistinct = n at hle ⊢
  unfold lastDistinct at hle
  exact Int.bmod_eq_of_le (by omega) (by omega)

/-- The rate of a decaying schedule, before the floor. -/
@[specialize] def decayed (base : K) (episode : Nat) : K :=
  base * Scalar.power decay (exponent episode)

/-- **The exploration rate in an episode.** -/
@[specialize] def rate (s : Schedule) (base : K) (episode : Nat) : K :=
  match s with
  | constant => base
  | decaying => Scalar.larger (Scalar.lesser floor base) (decayed base episode)

end Schedule

end LatticeLP

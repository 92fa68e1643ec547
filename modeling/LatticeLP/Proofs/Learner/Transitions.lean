import Mathlib.Control.Monad.Basic
import LatticeLP.Learner.Basic
import LatticeLP.Scalar.Rational
import LatticeLP.Tableau.Optimum

/-!
# The transitions of a run

A run is a machine of four phases, and one call makes one transition of it. This module
says once all that a transition can do: `Transition` has a constructor for each way,
with its guard and with the learner that comes of it. Every call makes one of them
(`transition_advance`), and the learner could make no other (`Transition.advance_eq`).
What is to be shown of a run is then shown case by case for a transition, without a look
at the definitions of the machine, and carried along any number of calls by
`advances_invariant`.

Nothing here depends on the arithmetic.
-/

namespace LatticeLP

namespace Lesson

variable {K : Type} [Scalar K] {lesson : Lesson K} {l l' : Learner K}
  {o : Option (Step K)}

/-- The move that the policy chooses next, with the random stream after the choice. -/
def choice (lesson : Lesson K) (l : Learner K) : Move × RandomStream :=
  lesson.policy.select l.random l.table l.position (lesson.epsilon l) Move.all

/-- The position that the next step tries. -/
def candidate (lesson : Lesson K) (l : Learner K) : Point K :=
  (lesson.choice l).1.apply l.position lesson.params.step

/-- The key of a point at the precision of the lesson. -/
def keyOf (lesson : Lesson K) (p : Point K) : Key :=
  Key.ofPoint lesson.params.precision p

/-- The phase after a step, by the number of steps then taken in the episode. -/
def phaseAfter (lesson : Lesson K) (steps : Nat) : Phase :=
  if lesson.params.steps ≤ steps then .episodeEnd else .stepInProgress

/-- **What one transition can do**: what it returns and which learner comes of it. -/
inductive Transition (lesson : Lesson K) (l : Learner K) :
    Option (Step K) → Learner K → Prop where
  /-- An episode is opened, at the origin. -/
  | opening (phase : l.phase = .episodeStart) :
    Transition lesson l none
      { l with position := .origin, step := 0, phase := .stepInProgress }
  /-- The step leads to a feasible point, which is learned from and taken. -/
  | accepted (phase : l.phase = .stepInProgress)
      (feasible : lesson.program.Feasible (lesson.candidate l)) :
    Transition lesson l (some (.accepted (lesson.candidate l)))
      { l with
        table :=
          lesson.learn l.table (lesson.keyOf l.position)
            (lesson.keyOf (lesson.candidate l))
            (lesson.reward l.step (lesson.candidate l))
        trail := lesson.candidate l :: l.trail
        random := (lesson.choice l).2
        position := lesson.candidate l
        step := l.step + 1
        phase := lesson.phaseAfter (l.step + 1)
        tally :=
          { l.tally with steps := l.tally.steps + 1, accepted := l.tally.accepted + 1 } }
  /-- The step leads outside the region, and is spent all the same. -/
  | rejected (phase : l.phase = .stepInProgress)
      (infeasible : ¬ lesson.program.Feasible (lesson.candidate l)) :
    Transition lesson l (some (.rejected (lesson.candidate l)))
      { l with
        random := (lesson.choice l).2
        step := l.step + 1
        phase := lesson.phaseAfter (l.step + 1)
        tally :=
          { l.tally with steps := l.tally.steps + 1, rejected := l.tally.rejected + 1 } }
  /-- An episode is closed and counted. -/
  | closing (phase : l.phase = .episodeEnd) :
    Transition lesson l none
      { l with
        episode := l.episode + 1
        tally := { l.tally with episodes := l.episode + 1, states := l.table.size }
        phase :=
          if l.episode + 1 < lesson.params.episodes then .episodeStart else .runComplete }
  /-- A completed run stays as it is. -/
  | resting (phase : l.phase = .runComplete) : Transition lesson l none l

/-- **A learner has only one transition to make**, and a call makes it. -/
theorem Transition.advance_eq (ht : lesson.Transition l o l') :
    lesson.advance l = (o, l') := by
  cases ht with
  | opening hphase | closing hphase | resting hphase => simp only [advance, hphase]
  | accepted hphase hfeasible =>
    have hexplore : lesson.explore l = _ := if_pos hfeasible
    simp only [advance, hphase, hexplore]
    rfl
  | rejected hphase hinfeasible =>
    have hexplore : lesson.explore l = _ := if_neg hinfeasible
    simp only [advance, hphase, hexplore]
    rfl

/-- There is one in every phase, and in the phase of steps it depends on what is tried. -/
theorem exists_transition (lesson : Lesson K) (l : Learner K) :
    ∃ o l', lesson.Transition l o l' := by
  cases hphase : l.phase with
  | episodeStart => exact ⟨_, _, .opening hphase⟩
  | stepInProgress =>
    by_cases hfeasible : lesson.program.Feasible (lesson.candidate l)
    · exact ⟨_, _, .accepted hphase hfeasible⟩
    · exact ⟨_, _, .rejected hphase hfeasible⟩
  | episodeEnd => exact ⟨_, _, .closing hphase⟩
  | runComplete => exact ⟨_, _, .resting hphase⟩

/-- **Every call makes a transition.** -/
theorem transition_advance (lesson : Lesson K) (l : Learner K) :
    lesson.Transition l (lesson.advance l).1 (lesson.advance l).2 := by
  obtain ⟨o, l', ht⟩ := lesson.exists_transition l
  rw [ht.advance_eq]
  exact ht

/-- A completed run no longer changes. -/
theorem advance_of_runComplete (h : l.phase = .runComplete) :
    lesson.advance l = (none, l) :=
  (Transition.resting h).advance_eq

/-! ## Many transitions -/

@[simp] theorem advances_zero (lesson : Lesson K) (l : Learner K) :
    lesson.advances 0 l = l := rfl

theorem advances_add (lesson : Lesson K) (m n : Nat) (l : Learner K) :
    lesson.advances (m + n) l = lesson.advances n (lesson.advances m l) := by
  induction m generalizing l with
  | zero => rw [Nat.zero_add, advances_zero]
  | succ m ih => rw [Nat.succ_add, advances, ih, advances]

/-- The last of several transitions. -/
theorem advances_succ (lesson : Lesson K) (n : Nat) (l : Learner K) :
    lesson.advances (n + 1) l = (lesson.advance (lesson.advances n l)).2 := by
  rw [advances_add]
  rfl

/-- **What every transition keeps, a run keeps.** -/
theorem advances_invariant {P : Learner K → Prop}
    (step : ∀ l o l', P l → lesson.Transition l o l' → P l') (h : P l) (n : Nat) :
    P (lesson.advances n l) := by
  induction n generalizing l with
  | zero => exact h
  | succ n ih => exact ih (step _ _ _ h (lesson.transition_advance l))

/-- A completed run stays as it is, however often it is asked. -/
theorem advances_of_runComplete (h : l.phase = .runComplete) (n : Nat) :
    lesson.advances n l = l := by
  induction n with
  | zero => rfl
  | succ n ih => rw [advances, advance_of_runComplete h, ih]

end Lesson

/-! ## Beginning -/

namespace Params

variable {K : Type} [Scalar K] {p : Params K}

/-- A check that begins with one condition passes if the condition holds and the rest
passes. -/
theorem guard_eq_ok_iff {E : Type} {c : Prop} [Decidable c] {e : E}
    {rest : Except E Unit} :
    (if c then .error e else rest) = .ok () ↔ ¬ c ∧ rest = .ok () := by
  by_cases h : c <;> simp [h]

/-- **What the check of parameters establishes.** -/
theorem valid_iff :
    p.Valid ↔ (0 ≤ p.epsilon ∧ p.epsilon ≤ 1) ∧ (0 < p.alpha ∧ p.alpha ≤ 1) ∧
    (0 ≤ p.gamma ∧ p.gamma < 1) ∧ (Scalar.isFinite p.step = true ∧ 0 < p.step) ∧
    p.episodes ≠ 0 ∧ p.steps ≠ 0 ∧ p.precision ≤ greatestPrecision ∧
      p.reach < keyRange := by
  simp only [Valid, check, guard_eq_ok_iff, Decidable.not_not, Nat.not_lt,
    ne_eq, and_true]

instance (p : Params K) : Decidable p.Valid :=
  decidable_of_iff _ valid_iff.symm

theorem Valid.episodes_pos (h : p.Valid) : 0 < p.episodes :=
  Nat.pos_of_ne_zero (valid_iff.mp h).2.2.2.2.1

theorem Valid.steps_pos (h : p.Valid) : 0 < p.steps :=
  Nat.pos_of_ne_zero (valid_iff.mp h).2.2.2.2.2.1

theorem Valid.step_pos (h : p.Valid) : 0 < p.step :=
  (valid_iff.mp h).2.2.2.1.2

end Params

namespace Lesson

variable {K : Type} [Scalar K] {lesson : Lesson K} {l : Learner K}

/-- **A run begins when its parameters are valid**, and always in the same way. -/
theorem start?_eq_ok_iff :
    lesson.start? = .ok l ↔ lesson.params.Valid ∧ lesson.start = l := by
  unfold start? Params.Valid
  cases lesson.params.check <;> simp [Except.map]

/-- A lesson to try things on: two episodes of three random steps on the sample program,
whose lattice is finer than the keys. -/
def trial : Lesson Rat where
  program := .sample
  params := { Params.standard with step := 5 / 4, episodes := 2, steps := 3 }
  schedule := .constant

theorem start?_trial : trial.start? = .ok trial.start :=
  start?_eq_ok_iff.mpr ⟨by decide +kernel, rfl⟩

theorem feasible_origin_trial : trial.program.Feasible .origin := by
  decide +kernel

/-- The exact optimum of the trial lesson. -/
theorem optimum?_trial :
    trial.program.optimum? ⟨0, 10⟩ = .ok ⟨⟨30 / 13, 42 / 13⟩, 636 / 13, 2⟩ := by
  decide +kernel

/-- The answer of the trial lesson once it is complete. -/
theorem solution?_trial :
    trial.solution? (trial.advances 10 trial.start)
      = some ⟨⟨13, 0, 1⟩, ⟨13 / 10, 0⟩, 99 / 4, 13⟩ := by
  decide +kernel

/-- The trial lesson with keys of two digits, in which its steps are whole numbers. -/
def fineTrial : Lesson Rat where
  program := trial.program
  params := { trial.params with precision := 2 }
  schedule := trial.schedule

theorem start?_fineTrial : fineTrial.start? = .ok fineTrial.start :=
  start?_eq_ok_iff.mpr ⟨by decide +kernel, rfl⟩

theorem exists_int_fineTrial :
    ∃ m : Int, fineTrial.params.step * 10 ^ fineTrial.params.precision = m :=
  ⟨125, by decide +kernel⟩

/-- The answer of the trial lesson if nothing is rounded. -/
theorem solution?_fineTrial :
    fineTrial.solution? (fineTrial.advances 10 fineTrial.start)
      = some ⟨⟨125, 0, 2⟩, ⟨5 / 4, 0⟩, 99 / 4, 25 / 2⟩ := by
  decide +kernel

end Lesson

end LatticeLP

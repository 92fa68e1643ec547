import Mathlib.Order.Bounds.Basic
import LatticeLP.Proofs.Learner.Table
import LatticeLP.Proofs.Learner.Transitions

/-!
# The clock of a run

Which transition comes next depends on how many were made before it, and on nothing that
was learned or drawn: an episode takes `episodeLength` transitions, one to open it, one
per step, one to close it. So the number of transitions, divided by that length, says
where a run stands – the quotient which episode it is in, the remainder how far
(`stands_advances`) – and the run is over after `runLength` of them.

The step counter of a learner is the one part that this does not fix, for it is reset
only when the next episode opens and keeps its last value until then. `Stands` speaks of
it inside an episode alone.

The other counters are tied to what they count by `Counted`, which every transition keeps.
-/

namespace LatticeLP

namespace Lesson

variable {K : Type} {lesson : Lesson K} {l l' : Learner K} {o : Option (Step K)}
  {e r : Nat}

/-- The number of transitions in a run. -/
def runLength (lesson : Lesson K) : Nat :=
  lesson.params.episodes * lesson.episodeLength

theorem episodeLength_pos (lesson : Lesson K) : 0 < lesson.episodeLength :=
  Nat.succ_pos _

/-- A run that lasts is in one of its episodes. -/
theorem episode_lt {k : Nat} (hk : k < lesson.runLength) :
    k / lesson.episodeLength < lesson.params.episodes :=
  Nat.div_lt_of_lt_mul (by rwa [Nat.mul_comm])

/-! ## Inside an episode -/

/-- The phase after `e` episodes and `r` transitions of the next. After all episodes the
run is over. -/
def phaseAt (lesson : Lesson K) (e r : Nat) : Phase :=
  if lesson.params.episodes ≤ e then .runComplete
  else if r = 0 then .episodeStart
  else if r ≤ lesson.params.steps then .stepInProgress
  else .episodeEnd

/-- **The learner stands after `e` episodes and `r` transitions of the next.** -/
structure Stands (lesson : Lesson K) (e r : Nat) (l : Learner K) : Prop where
  /-- So many episodes are completed. -/
  episode : l.episode = e
  /-- The phase is that of the next transition. -/
  phase : l.phase = lesson.phaseAt e r
  /-- Once the episode is open, the step counter counts its steps. -/
  step : r ≠ 0 → l.step = r - 1
  /-- The steps of all episodes are counted. -/
  steps : l.tally.steps = e * lesson.params.steps + min (r - 1) lesson.params.steps

/-- The phase of an ongoing run, by the number of transitions made in the episode. -/
theorem Stands.phase_eq (h : lesson.Stands e r l) (he : e < lesson.params.episodes) :
    (r = 0 → l.phase = .episodeStart) ∧
    (1 ≤ r → r ≤ lesson.params.steps → l.phase = .stepInProgress) ∧
    (r = lesson.params.steps + 1 → l.phase = .episodeEnd) := by
  rw [h.phase, phaseAt, if_neg (Nat.not_le.mpr he)]
  grind

/-- A learner opens an episode when it has made none of its transitions. -/
theorem Stands.eq_zero (h : lesson.Stands e r l) (hphase : l.phase = .episodeStart) :
    r = 0 := by
  rw [h.phase, phaseAt] at hphase
  grind

/-- A learner takes a step in the transitions that are numbered like the steps. -/
theorem Stands.of_stepInProgress (h : lesson.Stands e r l)
    (hphase : l.phase = .stepInProgress) :
    r ≠ 0 ∧ r ≤ lesson.params.steps := by
  rw [h.phase, phaseAt] at hphase
  grind

/-- A learner closes an episode when its steps are spent. -/
theorem Stands.lt_of_episodeEnd (h : lesson.Stands e r l)
    (hphase : l.phase = .episodeEnd) :
    lesson.params.steps < r := by
  rw [h.phase, phaseAt] at hphase
  grind

/-- The phase after a step is that of the transition after it. -/
theorem phaseAfter_eq_phaseAt (he : e < lesson.params.episodes) :
    lesson.phaseAfter r = lesson.phaseAt e (r + 1) := by
  unfold phaseAfter phaseAt
  grind

/-- The phase after an episode was closed is that of the next one, if there is one. -/
theorem phase_closed (lesson : Lesson K) (e : Nat) :
    (if e + 1 < lesson.params.episodes then Phase.episodeStart else .runComplete)
      = lesson.phaseAt (e + 1) 0 := by
  unfold phaseAt
  grind

variable [Scalar K]

theorem stands_start (h : lesson.params.Valid) : lesson.Stands 0 0 lesson.start where
  episode := rfl
  phase := by simp [phaseAt, start, Learner.ofSeed, Nat.not_le.mpr h.episodes_pos]
  step h := absurd rfl h
  steps := by simp [start, Learner.ofSeed, Tally.zero]

/-- **One transition forward** inside an episode. -/
theorem Stands.succ (h : lesson.Stands e r l) (hT : 0 < lesson.params.steps)
    (he : e < lesson.params.episodes) (hr : r ≤ lesson.params.steps)
    (ht : lesson.Transition l o l') : lesson.Stands e (r + 1) l' := by
  cases ht with
  | opening hphase =>
    obtain rfl := h.eq_zero hphase
    refine ⟨h.episode, ?_, fun _ => rfl, h.steps⟩
    simp [phaseAt, Nat.not_le.mpr he, Nat.succ_le_iff.mpr hT]
  | accepted hphase _ | rejected hphase _ =>
    -- the opening transition takes no step, so the counter is one behind
    obtain ⟨hr0, _⟩ := h.of_stepInProgress hphase
    have hstep : l.step + 1 = r := by rw [h.step hr0]; omega
    refine ⟨h.episode, ?_, fun _ => hstep, ?_⟩
    · show lesson.phaseAfter (l.step + 1) = _
      rw [hstep, phaseAfter_eq_phaseAt he]
    · show l.tally.steps + 1 = _
      rw [h.steps]
      omega
  | closing hphase => exact absurd hr (Nat.not_le.mpr (h.lt_of_episodeEnd hphase))
  | resting hphase =>
    rw [h.phase, phaseAt] at hphase
    grind

/-- **One transition from an episode to the next**, which records the size of the
table. -/
theorem Stands.next (h : lesson.Stands e (lesson.params.steps + 1) l)
    (he : e < lesson.params.episodes) (ht : lesson.Transition l o l') :
    lesson.Stands (e + 1) 0 l' ∧ l'.tally.states = l'.table.size := by
  have hend : l.phase = .episodeEnd := by
    rw [h.phase, phaseAt]
    grind
  cases ht with
  | closing _ =>
    refine ⟨⟨congrArg (· + 1) h.episode, ?_, fun h0 => absurd rfl h0, ?_⟩, rfl⟩
    · show (if l.episode + 1 < lesson.params.episodes then Phase.episodeStart
        else .runComplete) = _
      rw [h.episode, phase_closed]
    · show l.tally.steps = _
      rw [h.steps, Nat.succ_mul]
      omega
  | opening hphase | accepted hphase _ | rejected hphase _ | resting hphase =>
    rw [hend] at hphase
    cases hphase

/-- The size of the table is recorded at the end of an episode and at no other time. -/
theorem Transition.states_eq (ht : lesson.Transition l o l')
    (hphase : l.phase ≠ .episodeEnd) :
    l'.tally.states = l.tally.states := by
  cases ht with
  | closing h => exact absurd h hphase
  | opening _ | accepted _ _ | rejected _ _ | resting _ => rfl

/-- **Several transitions forward** inside an episode. -/
theorem Stands.advances (h : lesson.Stands e 0 l) (hT : 0 < lesson.params.steps)
    (he : e < lesson.params.episodes) (hr : r < lesson.episodeLength) :
    lesson.Stands e r (lesson.advances r l) ∧
      (lesson.advances r l).tally.states = l.tally.states := by
  induction r with
  | zero => exact ⟨h, rfl⟩
  | succ r ih =>
    obtain ⟨hstands, hstates⟩ := ih (Nat.lt_of_succ_lt hr)
    have ht := lesson.transition_advance (lesson.advances r l)
    have hle : r ≤ lesson.params.steps := Nat.le_of_lt_succ (Nat.lt_of_succ_lt_succ hr)
    rw [advances_succ]
    refine ⟨hstands.succ hT he hle ht, (ht.states_eq fun hend => ?_).trans hstates⟩
    exact absurd hle (Nat.not_le.mpr (hstands.lt_of_episodeEnd hend))

/-! ## Along a run -/

section Run

variable (valid : lesson.params.Valid)

include valid

/-- Whole episodes, after each of which the size of the table is on record. -/
theorem stands_episodes (he : e ≤ lesson.params.episodes) :
    lesson.Stands e 0 (lesson.advances (lesson.episodeLength * e) lesson.start) ∧
      (lesson.advances (lesson.episodeLength * e) lesson.start).tally.states
        = (lesson.advances (lesson.episodeLength * e) lesson.start).table.size := by
  induction e with
  | zero => exact ⟨stands_start valid, rfl⟩
  | succ e ih =>
    obtain ⟨hstands, _⟩ := ih (Nat.le_of_succ_le he)
    obtain ⟨hlast, _⟩ :=
      hstands.advances valid.steps_pos he (r := lesson.params.steps + 1)
        (Nat.lt_succ_self _)
    rw [← advances_add] at hlast
    rw [show lesson.episodeLength * (e + 1)
      = lesson.episodeLength * e + (lesson.params.steps + 1) + 1 from rfl, advances_succ]
    exact hlast.next he (lesson.transition_advance _)

/-- **Where a run stands after `k` transitions**: in the episode that the quotient says,
as far as the remainder says. -/
theorem stands_advances {k : Nat} (hk : k < lesson.runLength) :
    lesson.Stands (k / lesson.episodeLength) (k % lesson.episodeLength)
        (lesson.advances k lesson.start) ∧
      (lesson.advances k lesson.start).tally.states
        = (lesson.advances (lesson.episodeLength * (k / lesson.episodeLength))
            lesson.start).table.size := by
  have he := episode_lt hk
  obtain ⟨hstands, hstates⟩ := stands_episodes valid he.le
  have hadvances :=
    hstands.advances valid.steps_pos he (Nat.mod_lt k lesson.episodeLength_pos)
  rw [← advances_add, Nat.div_add_mod] at hadvances
  exact ⟨hadvances.1, hadvances.2.trans hstates⟩

/-- **A run is over after `runLength` transitions.** -/
theorem stands_runLength :
    lesson.Stands lesson.params.episodes 0
      (lesson.advances lesson.runLength lesson.start) := by
  rw [runLength, Nat.mul_comm]
  exact (stands_episodes valid le_rfl).1

theorem phase_runLength :
    (lesson.advances lesson.runLength lesson.start).phase = .runComplete := by
  rw [(stands_runLength valid).phase, phaseAt, if_pos le_rfl]

/-- From then on it does not change. -/
theorem advances_of_runLength_le {k : Nat} (hk : lesson.runLength ≤ k) :
    lesson.advances k lesson.start = lesson.advances lesson.runLength lesson.start := by
  rw [← Nat.add_sub_cancel' hk, advances_add,
    advances_of_runComplete (phase_runLength valid)]

/-- **A run is complete if and only if `runLength` transitions were made.** -/
theorem runComplete_iff {k : Nat} :
    (lesson.advances k lesson.start).phase = .runComplete ↔ lesson.runLength ≤ k := by
  refine ⟨fun h => Nat.le_of_not_lt fun hk => ?_, fun hk => ?_⟩
  · have hstands := (stands_advances valid hk).1
    rw [hstands.phase, phaseAt, if_neg] at h
    · grind
    · exact Nat.not_le.mpr (episode_lt hk)
  · rw [advances_of_runLength_le valid hk, phase_runLength valid]

/-- **Completing a run** from wherever it stands makes the transitions that are left. -/
theorem run_advances (k : Nat) :
    lesson.run (lesson.advances k lesson.start)
      = lesson.advances lesson.runLength lesson.start := by
  by_cases hk : k < lesson.runLength
  · rw [run, (stands_advances valid hk).1.episode, ← advances_add]
    -- a run that stands inside an episode is given more transitions than are left of it
    refine advances_of_runLength_le valid ?_
    have hdone := Nat.div_mul_le_self k lesson.episodeLength
    rw [runLength, Nat.sub_mul]
    omega
  · rw [advances_of_runLength_le valid (Nat.le_of_not_lt hk), run,
      advances_of_runComplete (phase_runLength valid)]

end Run

end Lesson

/-! ## The books -/

/-- **The counters of a learner agree with what they count.** -/
structure Learner.Counted {K : Type} (l : Learner K) : Prop where
  /-- A step is accepted or rejected. -/
  accepted_add_rejected : l.tally.accepted + l.tally.rejected = l.tally.steps
  /-- The trail has one position per accepted step. -/
  length_trail : l.trail.length = l.tally.accepted
  /-- An accepted step sets one estimate. -/
  size_le : l.table.size ≤ l.tally.accepted
  /-- The first accepted step sets one. -/
  size_pos : 0 < l.tally.accepted → 0 < l.table.size

namespace Lesson

variable {K : Type} [Scalar K] {lesson : Lesson K} {l l' l₀ : Learner K}
  {o : Option (Step K)}

theorem counted_start (lesson : Lesson K) : lesson.start.Counted :=
  ⟨rfl, rfl, Nat.le_refl 0, fun h => absurd h (Nat.lt_irrefl 0)⟩

/-- **Every transition keeps the counters in agreement.** -/
theorem Transition.counted (ht : lesson.Transition l o l') (h : l.Counted) :
    l'.Counted := by
  obtain ⟨hsum, hlength, hle, hpos⟩ := h
  cases ht with
  | opening _ | closing _ | resting _ => exact ⟨hsum, hlength, hle, hpos⟩
  | accepted _ _ =>
    refine ⟨?_, congrArg (· + 1) hlength, ?_, fun _ => Table.size_set_pos _ _ _⟩
    · show l.tally.accepted + 1 + l.tally.rejected = l.tally.steps + 1
      omega
    · exact (Table.size_set_le _ _ _).trans (Nat.succ_le_succ hle)
  | rejected _ _ =>
    refine ⟨?_, hlength, hle, hpos⟩
    show l.tally.accepted + (l.tally.rejected + 1) = l.tally.steps + 1
    omega

theorem counted_advances (lesson : Lesson K) (k : Nat) :
    (lesson.advances k lesson.start).Counted :=
  advances_invariant (fun _ _ _ h ht => ht.counted h) (counted_start lesson) k

/-- There is an answer as soon as a step was accepted. -/
theorem solution?_eq_none_iff (h : l.Counted) :
    lesson.solution? l = none ↔ l.tally.accepted = 0 := by
  rw [solution?, Learned.ofTable?_eq_none_iff]
  have := h.size_le
  have := h.size_pos
  omega

/-- **The books of a run after `k` transitions**: where it stands, what is left of it,
and what was counted. -/
structure Books (lesson : Lesson K) (l₀ : Learner K) (k : Nat) (l : Learner
    K) : Prop where
  /-- While the run lasts, quotient and remainder by the length of an episode say where
  it stands and how many steps were taken. -/
  ongoing : k < lesson.runLength →
    l.episode = k / lesson.episodeLength ∧
    (k % lesson.episodeLength = 0 → l.phase = .episodeStart) ∧
    (1 ≤ k % lesson.episodeLength → k % lesson.episodeLength ≤ lesson.params.steps →
      l.phase = .stepInProgress) ∧
    (k % lesson.episodeLength = lesson.params.steps + 1 → l.phase = .episodeEnd) ∧
    l.tally.steps = k / lesson.episodeLength * lesson.params.steps
      + min (k % lesson.episodeLength - 1) lesson.params.steps
  /-- After that all steps are taken and nothing changes. -/
  complete : lesson.runLength ≤ k →
    l.phase = .runComplete ∧ l.episode = lesson.params.episodes ∧
    l.tally.steps = lesson.params.episodes * lesson.params.steps ∧
      lesson.advance l = (none, l)
  /-- The run is complete after the transitions that are missing, and not before. -/
  remaining : IsLeast {n | (lesson.advances n l).phase = .runComplete}
    (lesson.runLength - k)
  /-- Completing it makes just these. -/
  run_eq : lesson.run l = lesson.advances (lesson.runLength - k) l
  /-- A step is accepted or rejected. -/
  accepted_add_rejected : l.tally.accepted + l.tally.rejected = l.tally.steps
  /-- The trajectory has one position per accepted step. -/
  length_trajectory : l.trajectory.length = l.tally.accepted
  /-- The table has at most one entry per accepted step. -/
  size_le : l.table.size ≤ l.tally.accepted
  /-- There is an answer unless no step was accepted. -/
  solution?_eq_none_iff : lesson.solution? l = none ↔ l.tally.accepted = 0
  /-- The recorded size of the table is that of the end of the last completed episode. -/
  states_eq : l.tally.states = (lesson.advances (lesson.episodeLength
    * min (k / lesson.episodeLength) lesson.params.episodes) l₀).table.size

/-- **The control state and the counters of a run have a closed form**, at every
transition of it and after. -/
theorem books_advances (h : lesson.start? = .ok l₀) (k : Nat) :
    lesson.Books l₀ k (lesson.advances k l₀) := by
  obtain ⟨valid, rfl⟩ := start?_eq_ok_iff.mp h
  have hcounted := counted_advances lesson k
  have hcomplete : ∀ n,
    (lesson.advances n (lesson.advances k lesson.start)).phase = .runComplete
      ↔ lesson.runLength ≤ k + n := fun n => by rw [← advances_add, runComplete_iff valid]
  refine ⟨fun hk => ?_, fun hk => ?_, ⟨?_, fun n hn => ?_⟩, ?_,
    hcounted.accepted_add_rejected, ?_,
    hcounted.size_le, lesson.solution?_eq_none_iff hcounted, ?_⟩
  · have hstands := (stands_advances valid hk).1
    obtain ⟨hstart, hopen, hend⟩ := hstands.phase_eq (episode_lt hk)
    exact ⟨hstands.episode, hstart, hopen, hend, hstands.steps⟩
  · have hphase := (runComplete_iff valid).mpr hk
    have hstands := stands_runLength valid
    rw [← advances_of_runLength_le valid hk] at hstands
    exact ⟨hphase, hstands.episode, hstands.steps.trans (by simp),
      advance_of_runComplete hphase⟩
  · exact (hcomplete _).mpr (by omega)
  · have := (hcomplete n).mp hn
    omega
  · rw [run_advances valid, ← advances_add]
    exact (advances_of_runLength_le valid (by omega)).symm
  · rw [Learner.trajectory, List.length_reverse, hcounted.length_trail]
  -- the quotient counts on after the end of the run, completed episodes do not
  · by_cases hk : k < lesson.runLength
    · rw [Nat.min_eq_left (episode_lt hk).le]
      exact (stands_advances valid hk).2
    · have hk := Nat.le_of_not_lt hk
      have he : lesson.params.episodes ≤ k / lesson.episodeLength :=
        (Nat.le_div_iff_mul_le lesson.episodeLength_pos).mpr hk
      rw [Nat.min_eq_right he, advances_of_runLength_le valid hk, runLength, Nat.mul_comm]
      exact (stands_episodes valid le_rfl).2

/-- The books of the trial lesson in the middle of its second episode. -/
theorem books_advances_trial :
    trial.start? = .ok trial.start ∧
      trial.Books trial.start 7 (trial.advances 7 trial.start) :=
  ⟨start?_trial, books_advances start?_trial 7⟩

end Lesson

end LatticeLP

import Mathlib.Data.List.Infix
import LatticeLP.Proofs.Learner.Clock

/-!
# Longer runs

The number of episodes of a lesson is consulted in one place: where an episode is
closed, and it is decided whether another one begins. A lesson with more episodes
therefore makes the transitions of the original as long as that one lasts
(`Transition.withEpisodes`) – what is drawn, rewarded and counted depends on the
episodes that are over, and not on those to come. The two learners are the same until
the shorter run is complete, and then they differ in nothing but that.

What the longer run does beyond that point takes nothing away: positions and keys are
only ever added behind the ones that are there (`Transition.isPrefix`). So whatever is
read off the beginning of a long run is true of a short one.
-/

namespace LatticeLP

namespace Learner

variable {K : Type} {l : Learner K}

/-- **A learner as it stands if there are `n` episodes**: complete only if it has been
through all of them. -/
def onward (n : Nat) (l : Learner K) : Learner K :=
  { l with phase := if l.phase = .runComplete ∧ l.episode < n then .episodeStart
    else l.phase }

theorem onward_of_ne (h : l.phase ≠ .runComplete) (n : Nat) : l.onward n = l := by
  rw [onward, if_neg fun hcomplete => h hcomplete.1]

theorem onward_of_runComplete {e : Nat} (h : l.phase = .runComplete)
    (he : l.episode = e) (n : Nat) :
    l.onward n = { l with phase := if e < n then .episodeStart else .runComplete } := by
  subst he
  simp only [onward, h, true_and]

end Learner

namespace Lesson

variable {K : Type} [Scalar K] {lesson : Lesson K} {l l' l₀ : Learner K}
  {o : Option (Step K)} {n : Nat}

/-- The lesson with another number of episodes. -/
def withEpisodes (lesson : Lesson K) (n : Nat) : Lesson K :=
  { lesson with params := { lesson.params with episodes := n } }

/-! ## While the shorter run lasts -/

omit [Scalar K] in
theorem phaseAfter_ne_runComplete (lesson : Lesson K) (steps : Nat) :
    lesson.phaseAfter steps ≠ .runComplete := by
  unfold phaseAfter
  split <;> simp

/-- **With more episodes the same transition is made**, except that the run may go on
after it. -/
theorem Transition.withEpisodes (ht : lesson.Transition l o l')
    (hphase : l.phase ≠ .runComplete) (hn : lesson.params.episodes ≤ n) :
    (lesson.withEpisodes n).Transition l o (l'.onward n) := by
  cases ht with
  | opening hopening =>
    rw [Learner.onward_of_ne (by simp)]
    exact .opening hopening
  | accepted hstep hfeasible =>
    rw [Learner.onward_of_ne (lesson.phaseAfter_ne_runComplete _)]
    exact .accepted hstep hfeasible
  | rejected hstep hinfeasible =>
    rw [Learner.onward_of_ne (lesson.phaseAfter_ne_runComplete _)]
    exact .rejected hstep hinfeasible
  | closing hend =>
    -- an episode that is not the last one of the shorter run is not the last one of the
    -- longer run
    have hlast : (if l.episode + 1 < n then Phase.episodeStart else .runComplete)
        = if (if l.episode + 1 < lesson.params.episodes then Phase.episodeStart
          else .runComplete)
              = .runComplete ∧ l.episode + 1 < n then .episodeStart
          else if l.episode + 1 < lesson.params.episodes then .episodeStart
            else .runComplete := by
      grind
    have hclosing : (lesson.withEpisodes n).Transition l none _ := .closing hend
    rw [Learner.onward, ← hlast]
    exact hclosing
  | resting hcomplete => exact absurd hcomplete hphase

/-- A longer lesson is begun if the lesson is, and in the same way. -/
theorem start?_withEpisodes (h : lesson.start? = .ok l₀)
    (hn : lesson.params.episodes ≤ n) :
    (lesson.withEpisodes n).start? = .ok l₀ := by
  obtain ⟨valid, rfl⟩ := start?_eq_ok_iff.mp h
  refine start?_eq_ok_iff.mpr ⟨?_, rfl⟩
  have hpos := valid.episodes_pos
  rw [Params.valid_iff] at valid ⊢
  obtain ⟨hepsilon, halpha, hgamma, hstep, _, hrest⟩ := valid
  exact ⟨hepsilon, halpha, hgamma, hstep, Nat.ne_of_gt (hpos.trans_le hn), hrest⟩

/-- **As long as the shorter run lasts, the longer one is in the same state.** -/
theorem advances_withEpisodes (valid : lesson.params.Valid)
    (hn : lesson.params.episodes ≤ n) {k : Nat}
    (hk : k ≤ lesson.runLength) :
    (lesson.withEpisodes n).advances k lesson.start
      = (lesson.advances k lesson.start).onward n := by
  induction k with
  | zero => exact (Learner.onward_of_ne (by simp [start, Learner.ofSeed]) n).symm
  | succ k ih =>
    have hphase : (lesson.advances k lesson.start).phase ≠ .runComplete :=
      mt (runComplete_iff valid).mp (Nat.not_le.mpr hk)
    have ht :=
      (lesson.transition_advance (lesson.advances k lesson.start)).withEpisodes hphase hn
    rw [advances_succ, advances_succ, ih (Nat.le_of_succ_le hk),
      Learner.onward_of_ne hphase, ht.advance_eq]

/-! ## Beyond it -/

/-- **Nothing is taken away**: a transition adds to the trajectory and to the keys
behind what is there. -/
theorem Transition.isPrefix (ht : lesson.Transition l o l') :
    l.trajectory <+: l'.trajectory ∧ l.table.keys <+: l'.table.keys := by
  cases ht with
  | opening _ | rejected _ _ | closing _ | resting _ =>
    exact ⟨List.prefix_refl _, List.prefix_refl _⟩
  | accepted _ _ =>
    constructor
    · rw [Learner.trajectory, Learner.trajectory, List.reverse_cons]
      exact List.prefix_append _ _
    · show l.table.keys <+: (Table.set _ _ _).keys
      rw [Table.keys_set]
      split
      · exact List.prefix_refl _
      · exact List.prefix_append _ _

theorem isPrefix_advances (lesson : Lesson K) (k : Nat) (l : Learner K) :
    l.trajectory <+: (lesson.advances k l).trajectory ∧
      l.table.keys <+: (lesson.advances k l).table.keys := by
  refine advances_invariant (P := fun l' => l.trajectory <+: l'.trajectory ∧
    l.table.keys <+: l'.table.keys) (fun _ _ _ h ht => ?_) ?_ k
  · exact ⟨h.1.trans ht.isPrefix.1, h.2.trans ht.isPrefix.2⟩
  · exact ⟨List.prefix_refl _, List.prefix_refl _⟩

/-- **More episodes only extend a run.** A lesson that is given more episodes begins in
the same way and is in the same state after any number of calls that does not complete
the shorter run. The call that completes it leads to states that differ at most in the
phase. The trajectory and the keys of the completed shorter run are those with which the
longer one begins. -/
theorem more_episodes_extend (h : lesson.start? = .ok l₀)
    (hn : lesson.params.episodes ≤ n) :
    (lesson.withEpisodes n).start? = .ok l₀ ∧
    (∀ k < lesson.params.episodes * (lesson.params.steps + 2),
      (lesson.withEpisodes n).advances k l₀ = lesson.advances k l₀) ∧
    (lesson.advances (lesson.params.episodes * (lesson.params.steps + 2)) l₀).phase
      = .runComplete ∧
    (lesson.withEpisodes n).advances
      (lesson.params.episodes * (lesson.params.steps + 2)) l₀
      = { lesson.advances (lesson.params.episodes * (lesson.params.steps + 2)) l₀ with
          phase := if lesson.params.episodes < n then .episodeStart else .runComplete } ∧
    (lesson.run l₀).trajectory <+: ((lesson.withEpisodes n).run l₀).trajectory ∧
    (lesson.run l₀).table.keys <+: ((lesson.withEpisodes n).run l₀).table.keys := by
  have hstart := start?_withEpisodes h hn
  obtain ⟨valid, rfl⟩ := start?_eq_ok_iff.mp h
  have valid' := (start?_eq_ok_iff.mp hstart).1
  have hcomplete := phase_runLength valid
  have hsplit := advances_withEpisodes valid hn le_rfl
  -- the longer run goes through the end of the shorter one
  have hrun : (lesson.withEpisodes n).run lesson.start = (lesson.withEpisodes n).advances
      ((lesson.withEpisodes n).runLength - lesson.runLength)
      ((lesson.advances lesson.runLength lesson.start).onward n) := by
    have hle : lesson.runLength ≤ (lesson.withEpisodes n).runLength :=
      Nat.mul_le_mul_right _ hn
    rw [← hsplit, ← advances_add, Nat.add_sub_cancel' hle]
    exact run_advances valid' 0
  refine ⟨hstart, fun k hk => ?_, hcomplete, ?_, ?_⟩
  · rw [advances_withEpisodes valid hn hk.le, Learner.onward_of_ne]
    exact mt (runComplete_iff valid).mp (Nat.not_le.mpr hk)
  · exact hsplit.trans
      (Learner.onward_of_runComplete hcomplete (stands_runLength valid).episode n)
  · rw [hrun, show lesson.run lesson.start = _ from run_advances valid 0]
    exact isPrefix_advances _ _ ((lesson.advances lesson.runLength lesson.start).onward n)

/-- The trial lesson with a third episode, in the middle of its second and at its end. -/
theorem more_episodes_extend_trial :
    trial.start? = .ok trial.start ∧ trial.params.episodes ≤ 3 ∧
    (trial.withEpisodes 3).advances 7 trial.start = trial.advances 7 trial.start ∧
    ((trial.withEpisodes 3).advances 10 trial.start).phase = .episodeStart ∧
    (trial.run trial.start).trajectory
      <+: ((trial.withEpisodes 3).run trial.start).trajectory ∧
    (trial.run trial.start).trajectory
      ≠ ((trial.withEpisodes 3).run trial.start).trajectory := by
  have hn : trial.params.episodes ≤ 3 := by decide
  obtain ⟨_, hsame, _, hlast, htrajectory, _⟩ := more_episodes_extend start?_trial hn
  exact ⟨start?_trial, hn, hsame 7 (by decide), congrArg Learner.phase hlast, htrajectory,
    by decide +kernel⟩

end Lesson

end LatticeLP

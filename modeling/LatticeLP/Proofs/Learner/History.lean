import Mathlib.Data.List.Basic
import LatticeLP.Proofs.Learner.Clock

/-!
# What the outcomes of a run determine

A call returns an outcome: the step that was taken, or nothing where an episode was
opened or closed. This module shows that the list of outcomes accounts for all that a
run has learned. The trajectory is the list of the accepted positions, the position is
the last of them in the current episode, and the table is the fold of the update rule
over the accepted steps – a **visit** each, with the position it started from, the
position it took and the reward, all read off the outcomes before it (`replay`). The
machine of phases, its counters and its random stream are not consulted.

Two things keep this from being a rearrangement. The reward belongs to the last step of
an episode, and the position before a move belongs to its episode, so both need to know
where in the list an episode began; the clock of the run says so. And the position of a
learner is reset when an episode *opens*, not when the one before closes: between the
two, and at the end of a run, the current episode is the one that was opened last.
-/

namespace LatticeLP

/-- The position that an outcome reports as taken. -/
def taken? {K : Type} : Option (Step K) → Option (Point K)
  | some (.accepted p) => some p
  | _ => none

/-- What a singleton contributes to a list of optional values. -/
theorem filterMap_singleton {α β : Type} (f : α → Option β) (a : α) :
    [a].filterMap f = (f a).toList := by
  rw [List.filterMap_cons, List.filterMap_nil]
  cases f a <;> rfl

/-- **A visit**: an accepted step as the update rule sees it. -/
structure Visit (K : Type) where
  /-- The position before the move. -/
  source : Point K
  /-- The position that was taken. -/
  target : Point K
  /-- The reward of the move. -/
  reward : K

namespace Lesson

variable {K : Type}

/-! ## Reading outcomes -/

/-- The outcomes of the episode that was opened last, of all outcomes since the
beginning of a run. After the end of the run there are no episodes. -/
def currentEpisode (lesson : Lesson K) (os : List (Option (Step K))) :
    List (Option (Step K)) :=
  let made := os.take lesson.runLength
  made.drop (lesson.episodeLength * ((made.length - 1) / lesson.episodeLength))

/-- The first outcome of an episode begins it, and every other one is added to it. -/
theorem currentEpisode_append (lesson : Lesson K) {os : List (Option (Step K))}
    (hos : os.length < lesson.runLength) (o : Option (Step K)) :
    lesson.currentEpisode (os ++ [o])
      = if os.length % lesson.episodeLength = 0 then [o]
        else lesson.currentEpisode os ++ [o] := by
  have hdiv := Nat.div_add_mod os.length lesson.episodeLength
  rw [currentEpisode, currentEpisode, List.take_of_length_le hos.le,
    List.take_of_length_le (List.length_append.trans_le hos), List.length_append,
    List.length_singleton, Nat.add_sub_cancel]
  split
  · next hr =>
    rw [hr, Nat.add_zero] at hdiv
    rw [hdiv, List.drop_left]
  · next hr =>
    have hlast : (os.length - 1) / lesson.episodeLength
        = os.length / lesson.episodeLength := by
      have hlt := Nat.mod_lt os.length lesson.episodeLength_pos
      rw [show os.length - 1 = os.length % lesson.episodeLength - 1
          + lesson.episodeLength * (os.length / lesson.episodeLength) by omega,
        Nat.add_mul_div_left _ _ lesson.episodeLength_pos, Nat.div_eq_of_lt (by omega),
        Nat.zero_add]
    rw [hlast, List.drop_append_of_le_length (by omega)]

/-- What comes after the end of the run belongs to no episode. -/
theorem currentEpisode_append_of_le (lesson : Lesson K) {os : List (Option (Step K))}
    (hos : lesson.runLength ≤ os.length) (o : Option (Step K)) :
    lesson.currentEpisode (os ++ [o]) = lesson.currentEpisode os := by
  rw [currentEpisode, currentEpisode, List.take_append_of_le_length hos]

variable [Scalar K]

/-- **Where outcomes lead**: to the position taken last in the current episode, or else
to the origin. -/
def standing (lesson : Lesson K) (os : List (Option (Step K))) : Point K :=
  ((lesson.currentEpisode os).filterMap taken?).getLast?.getD .origin

/-- The visit that an outcome reports, by the outcomes before it. The objective is the
reward of the step that makes up the number of steps of its episode. -/
def visitAfter (lesson : Lesson K) (os : List (Option (Step K))) (o : Option (Step K)) :
    Option (Visit K) :=
  (taken? o).map fun p =>
    { source := lesson.standing os
      target := p
      reward :=
        if (lesson.currentEpisode os).countP Option.isSome + 1 = lesson.params.steps
        then lesson.program.value p else 0 }

/-- The visits that outcomes report, in order. -/
def visits (lesson : Lesson K) (os : List (Option (Step K))) : List (Visit K) :=
  os.zipIdx.filterMap fun (o, i) => lesson.visitAfter (os.take i) o

/-- **The update rule**, `Q[s] := (1 - α) Q[s] + α (r + γ Q[s'])`. -/
def update (lesson : Lesson K) (t : Table K) (v : Visit K) : Table K :=
  t.set (lesson.keyOf v.source)
    ((1 - lesson.params.alpha) * t.get (lesson.keyOf v.source)
      + lesson.params.alpha
        * (v.reward + lesson.params.gamma * t.get (lesson.keyOf v.target)))

/-- **The table that outcomes add up to**: the update rule folded over their visits. -/
def replay (lesson : Lesson K) (os : List (Option (Step K))) : Table K :=
  (lesson.visits os).foldl lesson.update ∅

variable {lesson : Lesson K} {l l' l₀ : Learner K} {os : List (Option (Step K))}
  {o : Option (Step K)}

theorem visits_append (lesson : Lesson K) (os : List (Option (Step K)))
    (o : Option (Step K)) :
    lesson.visits (os ++ [o]) = lesson.visits os ++ (lesson.visitAfter os o).toList := by
  rw [visits, List.zipIdx_append, List.filterMap_append]
  -- an earlier visit looks only at the outcomes before it, among which the new one is not
  refine congrArg₂ (· ++ ·) (List.filterMap_congr fun oi hoi => ?_) ?_
  · have hlt : oi.2 < os.length := List.snd_lt_of_mem_zipIdx hoi
    show lesson.visitAfter ((os ++ [o]).take oi.2) oi.1
      = lesson.visitAfter (os.take oi.2) oi.1
    rw [List.take_append_of_le_length hlt.le]
  · rw [Nat.zero_add, List.zipIdx_singleton, filterMap_singleton]
    show (lesson.visitAfter ((os ++ [o]).take os.length) o).toList = _
    rw [List.take_left]

/-- An outcome that takes no position adds no visit. -/
theorem replay_append_of_none (h : taken? o = none) :
    lesson.replay (os ++ [o]) = lesson.replay os := by
  rw [replay, visits_append, visitAfter, h]
  simp [replay]

/-- An accepted step is learned from. -/
theorem replay_append_accepted (lesson : Lesson K) (os : List (Option (Step K)))
    (p : Point K) :
    lesson.replay (os ++ [some (.accepted p)])
      = lesson.update (lesson.replay os)
        { source := lesson.standing os
          target := p
          reward :=
            if (lesson.currentEpisode os).countP Option.isSome + 1 = lesson.params.steps
            then lesson.program.value p else 0 } := by
  rw [replay, visits_append, visitAfter]
  simp [replay, taken?]

/-- Inside an episode an outcome leads to the position it takes, or else where the ones
before it did. -/
theorem standing_of_append {os' : List (Option (Step K))}
    (h : lesson.currentEpisode os' = lesson.currentEpisode os ++ [o]) :
    lesson.standing os' = (taken? o).getD (lesson.standing os) := by
  rw [standing, h, List.filterMap_append, filterMap_singleton, standing]
  cases taken? o <;> simp

/-! ## Outcomes of a run -/

/-- The outcomes of several transitions. -/
def outcomes (lesson : Lesson K) :
    (transitions : Nat) → Learner K → List (Option (Step K))
  | 0, _ => []
  | n + 1, l => (lesson.advance l).1 :: outcomes lesson n (lesson.advance l).2

@[simp] theorem length_outcomes (lesson : Lesson K) (n : Nat) (l : Learner K) :
    (lesson.outcomes n l).length = n := by
  induction n generalizing l with
  | zero => rfl
  | succ n ih => rw [outcomes, List.length_cons, ih]

theorem outcomes_succ (lesson : Lesson K) (n : Nat) (l : Learner K) :
    lesson.outcomes (n + 1) l
      = lesson.outcomes n l ++ [(lesson.advance (lesson.advances n l)).1] := by
  induction n generalizing l with
  | zero => rfl
  | succ n ih => rw [outcomes, ih, outcomes, advances, List.cons_append]

/-- Every outcome is that of some transition. -/
theorem exists_advance_of_mem_outcomes {n : Nat} (h : o ∈ lesson.outcomes n l) :
    ∃ l', o = (lesson.advance l').1 := by
  induction n generalizing l with
  | zero => cases h
  | succ n ih =>
    cases h with
    | head => exact ⟨l, rfl⟩
    | tail _ h => exact ih h

/-- **A step is accepted if and only if the position it tries is feasible.** -/
theorem Transition.accepted_iff {s : Step K} (ht : lesson.Transition l (some s) l') :
    s = .accepted s.candidate ↔ lesson.program.Feasible s.candidate := by
  cases ht with
  | accepted _ hfeasible => exact iff_of_true rfl hfeasible
  | rejected _ hinfeasible => exact iff_of_false (fun h => nomatch h) hinfeasible

/-- A rejected step leaves no trace in what was learned. -/
theorem Transition.of_rejected {p : Point K}
    (ht : lesson.Transition l (some (.rejected p)) l') :
    l'.table = l.table ∧ l'.trajectory = l.trajectory ∧ l'.position = l.position := by
  cases ht
  exact ⟨rfl, rfl, rfl⟩

/-- **Outcomes account for a learner**: its trajectory, its position, its step counter
and its table are what they determine. -/
structure Accounts (lesson : Lesson K) (os : List
    (Option (Step K))) (l : Learner K) : Prop where
  /-- The accepted positions, in order. -/
  trajectory_eq : l.trajectory = os.filterMap taken?
  /-- The position taken last in the current episode, or else the origin. -/
  position_eq : l.position = lesson.standing os
  /-- The steps of the current episode. -/
  step_eq : l.step = (lesson.currentEpisode os).countP Option.isSome
  /-- The update rule folded over the accepted steps. -/
  table_eq : l.table = lesson.replay os

theorem accounts_start (lesson : Lesson K) : lesson.Accounts [] lesson.start := by
  have hnil : lesson.currentEpisode [] = [] := by
    rw [currentEpisode, List.take_nil, List.drop_nil]
  refine ⟨rfl, ?_, ?_, rfl⟩
  · rw [standing, hnil]
    rfl
  · rw [hnil]
    rfl

/-- An outcome inside an episode that takes no position leaves everything as it is,
apart from counting the step if there was one. -/
theorem Accounts.append_none (h : lesson.Accounts os l)
    (hepisode : lesson.currentEpisode (os ++ [o]) = lesson.currentEpisode os ++ [o])
    (ho : taken? o = none) (htrail : l'.trail = l.trail)
    (hposition : l'.position = l.position)
    (hstep : l'.step = l.step + [o].countP Option.isSome) (htable : l'.table = l.table) :
    lesson.Accounts (os ++ [o]) l' where
  trajectory_eq := by
    rw [Learner.trajectory, htrail, ← Learner.trajectory, h.trajectory_eq,
      List.filterMap_append, filterMap_singleton, ho]
    simp
  position_eq := by
    rw [hposition, h.position_eq, standing_of_append hepisode, ho, Option.getD_none]
  step_eq := by rw [hstep, h.step_eq, hepisode, List.countP_append]
  table_eq := by rw [htable, h.table_eq, replay_append_of_none ho]

/-- **One more outcome accounts for one more transition**, as long as the run lasts. -/
theorem Accounts.transition (h : lesson.Accounts os l)
    (hos : os.length < lesson.runLength)
    (hstands : lesson.Stands (os.length / lesson.episodeLength)
      (os.length % lesson.episodeLength) l)
    (ht : lesson.Transition l o l') : lesson.Accounts (os ++ [o]) l' := by
  have hepisode := lesson.currentEpisode_append hos o
  -- only the transition that opens an episode begins a new list of its outcomes
  cases ht with
  | opening hphase =>
    rw [if_pos (hstands.eq_zero hphase)] at hepisode
    refine ⟨?_, ?_, ?_, h.table_eq.trans (replay_append_of_none rfl).symm⟩
    · exact h.trajectory_eq.trans (by simp [taken?])
    · rw [standing, hepisode]
      rfl
    · rw [hepisode]
      rfl
  | accepted hphase _ =>
    rw [if_neg (hstands.of_stepInProgress hphase).1] at hepisode
    refine ⟨?_, ?_, ?_, ?_⟩
    · show (_ :: l.trail).reverse = _
      rw [List.reverse_cons, ← Learner.trajectory, h.trajectory_eq]
      simp [taken?]
    · rw [standing_of_append hepisode]
      rfl
    · rw [hepisode, List.countP_append, ← h.step_eq]
      rfl
    · rw [replay_append_accepted, ← h.table_eq, ← h.position_eq, ← h.step_eq]
      rfl
  | rejected hphase _ =>
    rw [if_neg (hstands.of_stepInProgress hphase).1] at hepisode
    exact h.append_none hepisode rfl rfl rfl rfl rfl
  | closing hphase =>
    rw [if_neg (Nat.ne_of_gt (Nat.zero_lt_of_lt (hstands.lt_of_episodeEnd hphase)))]
      at hepisode
    exact h.append_none hepisode rfl rfl rfl rfl rfl
  | resting hphase =>
    rw [hstands.phase, phaseAt, if_neg (Nat.not_le.mpr (episode_lt hos))] at hphase
    grind

/-- **The outcomes of a run account for its learner.** -/
theorem accounts_advances (valid : lesson.params.Valid) (n : Nat) :
    lesson.Accounts (lesson.outcomes n lesson.start)
      (lesson.advances n lesson.start) := by
  induction n with
  | zero => exact accounts_start lesson
  | succ n ih =>
    have hlength := lesson.length_outcomes n lesson.start
    rw [outcomes_succ, advances_succ]
    by_cases hn : n < lesson.runLength
    · refine ih.transition (hlength.symm ▸ hn) ?_ (lesson.transition_advance _)
      rw [hlength]
      exact (stands_advances valid hn).1
    -- a completed run adds empty outcomes, which belong to no episode
    · have hphase := (runComplete_iff valid).mpr (Nat.le_of_not_lt hn)
      have hepisode :=
        lesson.currentEpisode_append_of_le (hlength.symm ▸ Nat.le_of_not_lt hn) none
      rw [advance_of_runComplete hphase]
      refine ⟨ih.trajectory_eq.trans (by simp [taken?]), ?_, ?_,
        ih.table_eq.trans (replay_append_of_none rfl).symm⟩
      · rw [standing, hepisode, ← standing, ih.position_eq]
      · rw [hepisode, ih.step_eq]

/-- **The learner refines its update rule.** After any number of calls a step was
accepted exactly where the position it tried is feasible; the trajectory, the position
and the table are those that the outcomes determine; and a call that rejects a step
changes none of the three. -/
theorem advances_refines (h : lesson.start? = .ok l₀) (n : Nat) :
    (∀ s, some s ∈ lesson.outcomes n l₀ →
      (s = .accepted s.candidate ↔ lesson.program.Feasible s.candidate)) ∧
    (lesson.advances n l₀).trajectory = (lesson.outcomes n l₀).filterMap taken? ∧
    (lesson.advances n l₀).position = lesson.standing (lesson.outcomes n l₀) ∧
    (lesson.advances n l₀).table = lesson.replay (lesson.outcomes n l₀) ∧
    ∀ p, (lesson.advance (lesson.advances n l₀)).1 = some (.rejected p) →
      (lesson.advances (n + 1) l₀).table = (lesson.advances n l₀).table ∧
      (lesson.advances (n + 1) l₀).trajectory = (lesson.advances n l₀).trajectory ∧
      (lesson.advances (n + 1) l₀).position = (lesson.advances n l₀).position := by
  obtain ⟨valid, rfl⟩ := start?_eq_ok_iff.mp h
  have haccounts := accounts_advances valid n
  refine ⟨fun s hs => ?_, haccounts.trajectory_eq, haccounts.position_eq,
    haccounts.table_eq, fun p hp => ?_⟩
  · obtain ⟨l, hl⟩ := exists_advance_of_mem_outcomes hs
    have ht := lesson.transition_advance l
    rw [← hl] at ht
    exact ht.accepted_iff
  · have ht := lesson.transition_advance (lesson.advances n lesson.start)
    rw [hp] at ht
    rw [advances_succ]
    exact ht.of_rejected

/-- Two rejected steps and three accepted ones, the second of which is rewarded. -/
theorem advances_refines_trial : trial.start? = .ok trial.start ∧
    (trial.advances 8 trial.start).table
      = trial.replay [none, some (.rejected ⟨-5 / 4, 0⟩), some (.accepted ⟨5 / 4, 0⟩),
        some (.accepted ⟨5 / 2, 0⟩), none, none, some (.rejected ⟨0, -5 / 4⟩),
        some (.accepted ⟨5 / 4, 0⟩)] := by
  have houtcomes : trial.outcomes 8 trial.start
    = [none, some (.rejected ⟨-5 / 4, 0⟩), some (.accepted ⟨5 / 4, 0⟩),
      some (.accepted ⟨5 / 2, 0⟩), none, none, some (.rejected ⟨0, -5 / 4⟩),
      some (.accepted ⟨5 / 4, 0⟩)] := by decide +kernel
  have h := (advances_refines start?_trial 8).2.2.2.1
  exact ⟨start?_trial, houtcomes ▸ h⟩

end Lesson

end LatticeLP

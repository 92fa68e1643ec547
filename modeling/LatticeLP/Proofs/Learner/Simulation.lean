import LatticeLP.Proofs.Learner.History

/-!
# Two runs side by side

Two lessons are compared by a relation between their learners. It is a **simulation** if
transitions keep it: whatever transition the one learner makes, a related learner of the
other lesson can make one with the same outcome, after which the two are related again.
Since a learner has only one transition to make (`Transition.advance_eq`), related
learners then return the same outcomes for ever, and are related after any number of
calls (`Simulation.run`).

All simulations here have a part in common. Two learners are **abreast** if their clocks
and their walks agree; they stay abreast as long as they try the same positions
(`Transition.abreast`). What a transition does to the rest of a learner can be read off
its outcome (`tableAfter`, `tallyAfter`), so a simulation has to say only why the
positions are the same and how the rest is related.
-/

namespace LatticeLP

namespace Lesson

variable {K : Type} [Scalar K] {lesson lesson' : Lesson K} {l l' m : Learner K}
  {o : Option (Step K)} {R : Learner K → Learner K → Prop}

/-- **A relation that transitions keep**, and keep with equal outcomes. -/
def Simulation (lesson lesson' : Lesson K) (R : Learner K → Learner K → Prop) : Prop :=
  ∀ l l' o m, R l l' → lesson.Transition l o m → ∃ m', lesson'.Transition l' o m' ∧ R m m'

/-- Related learners return the same from a call, and are related after it. -/
theorem Simulation.advance (sim : Simulation lesson lesson' R) (h : R l l') :
    (lesson.advance l).1 = (lesson'.advance l').1 ∧
      R (lesson.advance l).2 (lesson'.advance l').2 := by
  obtain ⟨m', ht', h'⟩ := sim _ _ _ _ h (lesson.transition_advance l)
  rw [ht'.advance_eq]
  exact ⟨rfl, h'⟩

/-- **Related learners run alike.** -/
theorem Simulation.run (sim : Simulation lesson lesson' R) (h : R l l') (n : Nat) :
    lesson.outcomes n l = lesson'.outcomes n l' ∧
      R (lesson.advances n l) (lesson'.advances n l') := by
  induction n generalizing l l' with
  | zero => exact ⟨rfl, h⟩
  | succ n ih =>
    obtain ⟨houtcome, hnext⟩ := sim.advance h
    obtain ⟨houtcomes, hlast⟩ := ih hnext
    exact ⟨congrArg₂ List.cons houtcome houtcomes, hlast⟩

end Lesson

/-! ## Learners abreast -/

namespace Learner

variable {K : Type} {l l' : Learner K}

/-- **Two learners are abreast**: their clocks and their walks agree. -/
structure Abreast (l l' : Learner K) : Prop where
  phase : l'.phase = l.phase
  episode : l'.episode = l.episode
  step : l'.step = l.step
  position : l'.position = l.position
  trail : l'.trail = l.trail

/-- Learners abreast differ at most in their estimates, their random streams and their
counters. -/
theorem Abreast.eq (h : l.Abreast l') :
    l' = { l with table := l'.table, random := l'.random, tally := l'.tally } := by
  obtain ⟨hphase, hepisode, hstep, hposition, htrail⟩ := h
  rw [← hphase, ← hepisode, ← hstep, ← hposition, ← htrail]

/-- The counters after a transition, by its outcome. Without a step, they change where
an episode is closed. -/
def tallyAfter (l : Learner K) : Option (Step K) → Tally
  | some (.accepted _) =>
    { l.tally with steps := l.tally.steps + 1, accepted := l.tally.accepted + 1 }
  | some (.rejected _) =>
    { l.tally with steps := l.tally.steps + 1, rejected := l.tally.rejected + 1 }
  | none =>
    if l.phase = .episodeEnd then
      { l.tally with episodes := l.episode + 1, states := l.table.size }
    else l.tally

/-- Learners abreast count alike, if their tables are equally large. -/
theorem Abreast.tallyAfter_eq (h : l.Abreast l') (hsize : l'.table.size = l.table.size)
    (htally : l'.tally = l.tally) (o : Option (Step K)) :
    l'.tallyAfter o = l.tallyAfter o := by
  unfold tallyAfter
  rw [h.phase, h.episode, hsize, htally]

end Learner

namespace Lesson

variable {K : Type} [Scalar K] {lesson lesson' : Lesson K} {l l' m : Learner K}
  {o : Option (Step K)}

/-- The table after a transition, by its outcome: an accepted step changes one estimate,
and nothing else changes any. -/
def tableAfter (lesson : Lesson K) (l : Learner K) : Option (Step K) → Table K
  | some (.accepted p) =>
    lesson.learn l.table (lesson.keyOf l.position) (lesson.keyOf p)
      (lesson.reward l.step p)
  | some (.rejected _) | none => l.table

theorem Transition.table_eq (ht : lesson.Transition l o m) :
    m.table = lesson.tableAfter l o := by
  cases ht <;> rfl

theorem Transition.tally_eq (ht : lesson.Transition l o m) :
    m.tally = l.tallyAfter o := by
  cases ht with
  | accepted _ _ | rejected _ _ => rfl
  | opening hphase | closing hphase | resting hphase => simp [Learner.tallyAfter, hphase]

/-- All learners begin abreast. -/
theorem abreast_start (lesson lesson' : Lesson K) : lesson.start.Abreast lesson'.start :=
  ⟨rfl, rfl, rfl, rfl, rfl⟩

/-- **Two lessons have walks of the same shape**: over one region, in equally many
episodes of equally many steps. -/
structure SameShape (lesson lesson' : Lesson K) : Prop where
  feasible_iff : ∀ p, lesson'.program.Feasible p ↔ lesson.program.Feasible p
  episodes : lesson'.params.episodes = lesson.params.episodes
  steps : lesson'.params.steps = lesson.params.steps

/-- **Learners that try the same position stay abreast.** -/
theorem Transition.abreast (ht : lesson.Transition l o m)
    (hshape : SameShape lesson lesson')
    (h : l.Abreast l') (hcandidate : lesson'.candidate l' = lesson.candidate l) :
    ∃ m', lesson'.Transition l' o m' ∧ m.Abreast m' := by
  have hafter : ∀ steps, lesson'.phaseAfter steps = lesson.phaseAfter steps :=
    fun steps => by rw [phaseAfter, phaseAfter, hshape.steps]
  cases ht with
  | opening hphase =>
    exact ⟨_, .opening (h.phase.trans hphase), rfl, h.episode, rfl, rfl, h.trail⟩
  | accepted hphase hfeasible =>
    rw [← hcandidate] at hfeasible ⊢
    refine ⟨_,
      .accepted (h.phase.trans hphase) ((hshape.feasible_iff _).mpr hfeasible), ?_⟩
    exact ⟨by rw [h.step, hafter], h.episode, congrArg (· + 1) h.step, rfl,
      by rw [h.trail]⟩
  | rejected hphase hinfeasible =>
    rw [← hcandidate] at hinfeasible ⊢
    refine ⟨_,
      .rejected (h.phase.trans hphase) (mt (hshape.feasible_iff _).mp hinfeasible), ?_⟩
    exact ⟨by rw [h.step, hafter], h.episode, congrArg (· + 1) h.step, h.position,
      h.trail⟩
  | closing hphase =>
    refine ⟨_, .closing (h.phase.trans hphase), ?_⟩
    exact ⟨by rw [h.episode, hshape.episodes], congrArg (· + 1) h.episode, h.step,
      h.position, h.trail⟩
  | resting hphase => exact ⟨_, .resting (h.phase.trans hphase), h⟩

end Lesson

end LatticeLP

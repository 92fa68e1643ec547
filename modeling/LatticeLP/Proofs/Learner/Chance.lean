import Mathlib.Algebra.Order.Field.Rat
import Mathlib.Tactic.NormNum
import Mathlib.Tactic.Positivity
import LatticeLP.Learner.Sweep
import LatticeLP.Proofs.Learner.Simulation
import LatticeLP.Proofs.Scalar.Comparable
import LatticeLP.Proofs.Scalar.Magnitude

/-!
# Chance

A run consults its random stream in one place, where a step decides whether to explore.
This module shows how far the influence reaches, both ways.

**Nothing that is learned reaches the stream.** The stream, the phase and the two
counters of the clock are the `Draws` of a learner. They make up a machine of their own,
which goes on without a look at the rest (`draws_advances`), and lessons that agree on
the rate and on the length of episodes share that machine, whatever they are to learn.
If moreover every step explores, the walk depends on nothing but the draws and the
region.

**Chance reaches what is learned through exploring alone.** If no step explores, the
stream is drawn from but not listened to, and the runs of a lesson for all seeds are the
same.

The arithmetic of the scalars enters only where a probability is compared with a rate;
what it has to provide there for a rate of zero to stay one is listed in `ZeroRates`.
The rationals provide it, and so do double-precision numbers.
-/

namespace LatticeLP

/-! ## Decisions -/

namespace RandomStream

section Decision

variable {K : Type} [Scalar K] {r : RandomStream} {ε : K}

/-- **What is decided** depends on the first draw. Exploring draws an index after it. -/
theorem decision_eq_ite (r : RandomStream) (ε : K) (count : Nat) :
    r.decision ε count = if (r.probability (K := K)).1 < ε then
        (.explore ((r.probability (K := K)).2.below count).1,
          ((r.probability (K := K)).2.below count).2)
      else (.exploit, (r.probability (K := K)).2) := by
  unfold decision
  generalize r.probability (K := K) = drawn
  obtain ⟨u, r⟩ := drawn
  by_cases h : u < ε
  · refine ((if_pos h).trans ?_).trans (if_pos h).symm
    split
    next index r' hindex =>
      exact congrArg (fun drawn => (Decision.explore drawn.1, drawn.2)) hindex.symm
  · exact (if_neg h).trans (if_neg h).symm

/-- A probability below the rate makes a step explore. -/
theorem decision_of_lt (h : (r.probability (K := K)).1 < ε) (count : Nat) :
    ∃ index, (r.decision ε count).1 = .explore index := by
  rw [decision_eq_ite, if_pos h]
  exact ⟨_, rfl⟩

/-- Any other probability makes it exploit. -/
theorem decision_of_not_lt (h : ¬ (r.probability (K := K)).1 < ε) (count : Nat) :
    (r.decision ε count).1 = .exploit := by
  rw [decision_eq_ite, if_neg h]

end Decision

/-- **An exact probability is a fraction** with fifty-three bits of a word in its
numerator. -/
theorem probability_rational (r : RandomStream) :
    (r.probability (K := Rat)).1 = ((r.next.1 >>> 11).toNat : Rat) / 2 ^ 53 := by
  have hresolution : ((resolution : Nat) : Rat) = 2 ^ 53 := by norm_num [resolution]
  simp only [probability]
  rw [hresolution]

theorem probability_nonneg (r : RandomStream) : 0 ≤ (r.probability (K := Rat)).1 := by
  rw [probability_rational]
  positivity

/-- The upper fifty-three bits of a word are a number of fifty-three bits. -/
theorem toNat_shiftRight_lt (word : UInt64) : (word >>> 11).toNat < 2 ^ 53 := by
  have hword := word.toNat_lt
  rw [UInt64.toNat_shiftRight, Nat.shiftRight_eq_div_pow]
  exact Nat.div_lt_of_lt_mul hword

theorem probability_lt_one (r : RandomStream) : (r.probability (K := Rat)).1 < 1 := by
  rw [probability_rational, div_lt_one (by positivity)]
  exact_mod_cast toNat_shiftRight_lt r.next.1

end RandomStream

/-! ## The machine that draws -/

/-- The part of a learner that drives its random stream. -/
structure Draws where
  /-- Where the run stands. -/
  phase : Phase
  /-- Completed episodes, on which the exploration rate depends. -/
  episode : Nat
  /-- Steps taken in the current episode. -/
  step : Nat
  /-- The random stream. -/
  random : RandomStream

/-- The draws of a learner. -/
def Learner.draws {K : Type} (l : Learner K) : Draws :=
  ⟨l.phase, l.episode, l.step, l.random⟩

namespace Lesson

variable {K : Type} [Scalar K] {lesson lesson' : Lesson K} {l l' : Learner K}
  {o : Option (Step K)}

/-- What the stream decides about a step in an episode, and the stream after that. -/
def decision (lesson : Lesson K) (random : RandomStream) (episode : Nat) :
    Decision × RandomStream :=
  random.decision (lesson.schedule.rate lesson.params.epsilon episode) Move.all.length

/-- **What is decided about the next step**, if the next transition is a step. -/
def decision? (lesson : Lesson K) (l : Learner K) : Option Decision :=
  if l.phase = .stepInProgress then some (lesson.decision l.random l.episode).1 else none

/-- The move of a step carries out what is decided about it. -/
theorem choice_eq (lesson : Lesson K) (l : Learner K) :
    lesson.choice l
      = (lesson.policy.carryOut l.table l.position Move.all
        (lesson.decision l.random l.episode).1, (lesson.decision l.random l.episode).2) :=
  rfl

/-- An exploring step takes the move that is drawn. -/
theorem choice_of_explore {index : Nat}
    (h : (lesson.decision l.random l.episode).1 = .explore index) :
    (lesson.choice l).1 = Move.all.getD index .right := by
  rw [choice_eq, h]
  rfl

theorem decision?_eq_some {d : Decision} (h : lesson.decision? l = some d) :
    (lesson.decision l.random l.episode).1 = d := by
  unfold decision? at h
  split at h
  · exact Option.some.inj h
  · cases h

/-- The draws after a transition, by the draws before it. -/
def redraw (lesson : Lesson K) (d : Draws) : Draws :=
  match d.phase with
  | .episodeStart => { d with phase := .stepInProgress, step := 0 }
  | .stepInProgress =>
    { d with
      phase := lesson.phaseAfter (d.step + 1)
      step := d.step + 1
      random := (lesson.decision d.random d.episode).2 }
  | .episodeEnd =>
    { d with
      phase :=
        if d.episode + 1 < lesson.params.episodes then .episodeStart else .runComplete
      episode := d.episode + 1 }
  | .runComplete => d

/-- **A transition draws without a look at what was learned.** -/
theorem Transition.draws_eq (ht : lesson.Transition l o l') :
    l'.draws = lesson.redraw l.draws := by
  cases ht with
  | opening hphase | closing hphase | resting hphase =>
    simp only [redraw, Learner.draws, hphase]
  | accepted hphase _ | rejected hphase _ =>
    simp only [redraw, Learner.draws, hphase, choice_eq]

/-- **The draws of a run are those of a machine of their own.** -/
theorem draws_advances (lesson : Lesson K) (n : Nat) (l : Learner K) :
    (lesson.advances n l).draws = lesson.redraw^[n] l.draws := by
  induction n generalizing l with
  | zero => rfl
  | succ n ih =>
    rw [advances, ih, (lesson.transition_advance l).draws_eq, Function.iterate_succ_apply]

/-- **Lessons that agree on what drives the random stream**: the seed, the rate and its
schedule, and how many episodes of how many steps there are. -/
structure DrawsAlike (lesson lesson' : Lesson K) : Prop where
  seed : lesson.params.seed = lesson'.params.seed
  epsilon : lesson.params.epsilon = lesson'.params.epsilon
  schedule : lesson.schedule = lesson'.schedule
  episodes : lesson.params.episodes = lesson'.params.episodes
  steps : lesson.params.steps = lesson'.params.steps

namespace DrawsAlike

variable (h : lesson.DrawsAlike lesson')

include h

/-- Such lessons decide alike about every step. -/
theorem decision_eq : lesson.decision = lesson'.decision := by
  funext random episode
  rw [decision, decision, h.schedule, h.epsilon]

/-- They share the machine that draws. -/
theorem redraw_eq : lesson.redraw = lesson'.redraw := by
  funext d
  simp only [redraw, phaseAfter, h.decision_eq, h.episodes, h.steps]

/-- **Their draws stay the same.** -/
theorem draws_advances (n : Nat) :
    (lesson.advances n lesson.start).draws
      = (lesson'.advances n lesson'.start).draws := by
  have hstart : lesson.start.draws = lesson'.start.draws := by
    rw [start, start, h.seed]
  rw [Lesson.draws_advances, Lesson.draws_advances, h.redraw_eq, hstart]

end DrawsAlike

/-! ## Exploring in every step -/

/-- **Every step explores**, whatever is drawn. -/
def AlwaysExplores (lesson : Lesson K) : Prop :=
  ∀ (random : RandomStream) (episode : Nat),
    (random.probability (K := K)).1 < lesson.schedule.rate lesson.params.epsilon episode

/-- A constant rate of one makes every step explore, since all probabilities are below
one. -/
theorem alwaysExplores_of_one
    (hdraw : ∀ random : RandomStream, (random.probability (K := K)).1 < 1)
    (hschedule : lesson.schedule = .constant) (hone : lesson.params.epsilon = 1) :
    lesson.AlwaysExplores := by
  intro random episode
  rw [hschedule, hone]
  exact hdraw random

/-- **Where every step explores, lessons that draw alike walk alike**, if the region and
the length of moves are the same. -/
theorem DrawsAlike.simulation (h : lesson.DrawsAlike lesson')
    (hexplores : lesson.AlwaysExplores) (hstep : lesson.params.step = lesson'.params.step)
    (hregion : lesson.program.constraints = lesson'.program.constraints) :
    Simulation lesson lesson' fun l l' => l.Abreast l' ∧ l'.draws = l.draws := by
  have hshape : SameShape lesson lesson' := by
    have hregion : lesson.program.region = lesson'.program.region :=
      congrArg Region.mk hregion
    refine ⟨fun p => ?_, h.episodes.symm, h.steps.symm⟩
    rw [Program.Feasible, Program.Feasible, hregion]
  rintro l l' o m ⟨habreast, hdraws⟩ ht
  have hrandom : l'.random = l.random := congrArg Draws.random hdraws
  -- both draw the same index, and the move at that index does not depend on the table
  obtain ⟨index, hindex⟩ :=
    RandomStream.decision_of_lt (hexplores l.random l.episode) Move.all.length
  have hcandidate : lesson'.candidate l' = lesson.candidate l := by
    have hindex' : (lesson'.decision l'.random l'.episode).1 = .explore index := by
      rw [← h.decision_eq, hrandom, habreast.episode]
      exact hindex
    rw [candidate, candidate, choice_of_explore hindex, choice_of_explore hindex',
      habreast.position, hstep]
  obtain ⟨m', ht', habreast'⟩ := ht.abreast hshape habreast hcandidate
  exact ⟨m', ht', habreast', by rw [ht.draws_eq, ht'.draws_eq, hdraws, h.redraw_eq]⟩

/-- **The random stream does not depend on what is learned.** Lessons with the same
seed, exploration rate, schedule and length have the same stream after any number of
calls, make the same decision in every step, and take the same move in every step that
explores. If their schedule is constant with a rate of one, all probabilities are below
one, and the length of moves and the constraints are the same as well, all outcomes,
positions and trajectories are the same. -/
theorem DrawsAlike.same_draws (h : lesson.DrawsAlike lesson') (n : Nat) :
    (lesson.advances n lesson.start).random = (lesson'.advances n lesson'.start).random ∧
    lesson.decision? (lesson.advances n lesson.start)
      = lesson'.decision? (lesson'.advances n lesson'.start) ∧
    (∀ index, lesson.decision? (lesson.advances n lesson.start) = some (.explore index) →
      (lesson.choice (lesson.advances n lesson.start)).1
        = (lesson'.choice (lesson'.advances n lesson'.start)).1) ∧
    (lesson.schedule = .constant → lesson.params.epsilon = 1 →
      (∀ random : RandomStream, (random.probability (K := K)).1 < 1) →
      lesson.params.step = lesson'.params.step →
      lesson.program.constraints = lesson'.program.constraints →
      lesson.outcomes n lesson.start = lesson'.outcomes n lesson'.start ∧
      (lesson.advances n lesson.start).position
        = (lesson'.advances n lesson'.start).position ∧
      (lesson.advances n lesson.start).trajectory
        = (lesson'.advances n lesson'.start).trajectory) := by
  have hdraws := h.draws_advances n
  set l := lesson.advances n lesson.start
  set l' := lesson'.advances n lesson'.start
  have hrandom : l.random = l'.random := congrArg Draws.random hdraws
  have hepisode : l.episode = l'.episode := congrArg Draws.episode hdraws
  have hdecision : lesson.decision? l = lesson'.decision? l' := by
    rw [decision?, decision?, h.decision_eq, hrandom, hepisode,
      show l.phase = l'.phase from congrArg Draws.phase hdraws]
  refine ⟨hrandom, hdecision, fun index hindex => ?_,
    fun hschedule hone hdraw hstep hregion => ?_⟩
  · rw [choice_of_explore (decision?_eq_some hindex),
      choice_of_explore (decision?_eq_some (hdecision ▸ hindex))]
  · have hsim := h.simulation (alwaysExplores_of_one hdraw hschedule hone) hstep hregion
    obtain ⟨houtcomes, habreast, _⟩ :=
      hsim.run ⟨abreast_start lesson lesson', (h.draws_advances 0).symm⟩ n
    refine ⟨houtcomes, habreast.position.symm, ?_⟩
    rw [Learner.trajectory, Learner.trajectory, habreast.trail]

/-- The trial lesson for another objective, with other rates of learning and finer
keys. -/
def retrial : Lesson Rat where
  program := { trial.program with objective := ⟨-1, 3⟩ }
  params := { trial.params with alpha := 1 / 2, gamma := 1 / 4, precision := 2 }
  schedule := trial.schedule

/-- The trial lesson and its variant walk alike, and learn different things. -/
theorem same_draws_trial :
    trial.DrawsAlike retrial ∧ trial.schedule = .constant ∧ trial.params.epsilon = 1 ∧
    (∀ random : RandomStream, (random.probability (K := Rat)).1 < 1) ∧
    trial.params.step = retrial.params.step ∧
    trial.program.constraints = retrial.program.constraints ∧
    trial.decision? (trial.advances 1 trial.start) = some (.explore 1) ∧
    (trial.choice (trial.advances 1 trial.start)).1
      = (retrial.choice (retrial.advances 1 retrial.start)).1 ∧
    trial.outcomes 10 trial.start = retrial.outcomes 10 retrial.start ∧
    trial.solution? (trial.advances 10 trial.start)
      ≠ retrial.solution? (retrial.advances 10 retrial.start) := by
  have halike : trial.DrawsAlike retrial := ⟨rfl, rfl, rfl, rfl, rfl⟩
  have hone : trial.params.epsilon = 1 := by decide +kernel
  have hdecision : trial.decision? (trial.advances 1 trial.start)
      = some (.explore 1) := by
    decide +kernel
  have hwalk :=
    (halike.same_draws 10).2.2.2 rfl hone RandomStream.probability_lt_one rfl rfl
  exact ⟨halike, rfl, hone, RandomStream.probability_lt_one, rfl, rfl, hdecision,
    (halike.same_draws 1).2.2.1 1 hdecision, hwalk.1, by decide +kernel⟩

/-! ## Exploring in no step -/

end Lesson

/-- **What the arithmetic has to provide for a rate of zero to stay one**, under a
decaying schedule as under a constant one, and for nothing to be drawn below it. -/
structure ZeroRates (K : Type) [Scalar K] : Prop where
  /-- The floor is above zero. -/
  lt_floor : ∀ x : K, (x == 0) = true → x < Schedule.floor
  /-- A finite multiple of zero is zero. -/
  mul_eq_zero : ∀ x y : K, (x == 0) = true → Scalar.isFinite y = true →
    (x * y == 0) = true
  /-- The powers of the factor of decay are finite. -/
  isFinite_decay : ∀ n : Nat, Scalar.isFinite (Scalar.power (Schedule.decay : K) n) = true
  /-- No probability is below zero. -/
  not_probability_lt : ∀ (random : RandomStream) (x : K), (x == 0) = true →
    ¬ (random.probability (K := K)).1 < x

/-- The rational numbers provide it. -/
theorem zeroRates_rational : ZeroRates Rat where
  lt_floor x hx := by
    rw [beq_iff_eq.mp hx]
    decide +kernel
  mul_eq_zero x y hx _ := by
    rw [beq_iff_eq.mp hx, zero_mul]
    rfl
  isFinite_decay _ := rfl
  not_probability_lt random x hx := by
    rw [beq_iff_eq.mp hx]
    exact not_lt.mpr random.probability_nonneg

/-- **So do the double-precision numbers**, however the powers are rounded. -/
theorem zeroRates_double : ZeroRates Float where
  lt_floor x hx := by
    obtain ⟨s, hx⟩ := Double.unpack_of_beq_zero hx
    refine Double.lt_iff_unpacked.mpr ?_
    rw [hx]
    cases s <;> decide +kernel
  mul_eq_zero _ _ := Double.mul_beq_zero
  isFinite_decay := Double.isFinite_power (by decide +kernel)
  not_probability_lt random x hx hlt := by
    obtain ⟨s, hx⟩ := Double.unpack_of_beq_zero hx
    have hprobability := Double.lt_iff_unpacked.mp hlt
    rw [hx] at hprobability
    exact Double.not_lt_zero
      (Double.unsigned_quotient (UInt64.toNat_lt _) (by decide)) s hprobability

namespace Schedule

variable {K : Type} [Scalar K]

/-- **A schedule does not lift a rate of zero.** -/
theorem rate_eq_zero (hzero : ZeroRates K) (s : Schedule) {ε : K} (h : (ε == 0) = true)
    (episode : Nat) : (s.rate ε episode == 0) = true := by
  cases s with
  | constant => exact h
  | decaying =>
    have hdecayed : (decayed ε episode == 0) = true := by
      rw [decayed, exponent_eq]
      exact hzero.mul_eq_zero _ _ h (hzero.isFinite_decay _)
    show (Scalar.larger (Scalar.lesser floor ε) (decayed ε episode) == 0) = true
    -- a rate of zero is below the floor, which then gives way to it
    rw [Scalar.lesser, if_pos (hzero.lt_floor ε h), Scalar.larger]
    split
    · exact hdecayed
    · exact h

end Schedule

namespace Lesson

variable {K : Type} [Scalar K] {lesson : Lesson K}

/-- **No step explores**, whatever is drawn. -/
def NeverExplores (lesson : Lesson K) : Prop :=
  ∀ (random : RandomStream) (episode : Nat),
    ¬ (random.probability (K := K)).1 < lesson.schedule.rate lesson.params.epsilon episode

/-- A rate of zero makes no step explore, under either schedule. -/
theorem neverExplores_of_zero (hzero : ZeroRates K)
    (h : (lesson.params.epsilon == 0) = true) :
    lesson.NeverExplores := fun random episode =>
  hzero.not_probability_lt random _ (lesson.schedule.rate_eq_zero hzero h episode)

/-- A step that does not explore takes the move that looks best. -/
theorem NeverExplores.choice_fst (h : lesson.NeverExplores) (l : Learner K) :
    (lesson.choice l).1 = lesson.policy.greedy l.table l.position Move.all := by
  have hexploit : (lesson.decision l.random l.episode).1 = .exploit :=
    RandomStream.decision_of_not_lt (h l.random l.episode) _
  rw [choice_eq, hexploit]
  rfl

/-- **Where no step explores, the seed does not matter.** -/
theorem NeverExplores.simulation (h : lesson.NeverExplores) (seed : UInt64) :
    Simulation lesson (lesson.withSeed seed) fun l l' =>
      l.Abreast l' ∧ l'.table = l.table ∧ l'.tally = l.tally := by
  have hseed : (lesson.withSeed seed).NeverExplores := h
  have hshape : SameShape lesson (lesson.withSeed seed) := ⟨fun _ => Iff.rfl, rfl, rfl⟩
  rintro l l' o m ⟨habreast, htable, htally⟩ ht
  -- the streams differ, but the best move is chosen without them
  have hcandidate : (lesson.withSeed seed).candidate l' = lesson.candidate l := by
    rw [candidate, candidate, h.choice_fst, hseed.choice_fst, htable, habreast.position]
    rfl
  obtain ⟨m', ht', habreast'⟩ := ht.abreast hshape habreast hcandidate
  refine ⟨m', ht', habreast', ?_, ?_⟩
  · rw [ht.table_eq, ht'.table_eq]
    unfold tableAfter
    rw [htable, habreast.position, habreast.step]
    rfl
  · rw [ht.tally_eq, ht'.tally_eq,
      habreast.tallyAfter_eq (congrArg Table.size htable) htally]

end Lesson

/-- **Two runs differ in nothing but the seed** and the random stream that comes of it.
How long they took is not compared. -/
structure Run.SameButSeed {K : Type} [Scalar K] (run run' : Run K) : Prop where
  lesson_eq : run'.lesson = run.lesson.withSeed run'.lesson.params.seed
  learner_eq : run'.learner = { run.learner with random := run'.learner.random }
  solution?_eq : run'.solution? = run.solution?

namespace Lesson

variable {K : Type} [Scalar K] {lesson : Lesson K}

/-- Runs that do not explore differ in nothing but the seed. -/
theorem NeverExplores.sameButSeed (h : lesson.NeverExplores) (seed : UInt64) (n : Nat)
    (elapsed elapsed' : Span) :
    lesson.outcomes n lesson.start
      = (lesson.withSeed seed).outcomes n (lesson.withSeed seed).start ∧
    Run.SameButSeed ⟨lesson, lesson.advances n lesson.start, elapsed⟩
      ⟨lesson.withSeed seed,
        (lesson.withSeed seed).advances n (lesson.withSeed seed).start, elapsed'⟩ := by
  obtain ⟨houtcomes, habreast, htable, htally⟩ :=
    (h.simulation seed).run ⟨abreast_start lesson (lesson.withSeed seed), rfl, rfl⟩ n
  have hlearner := habreast.eq
  rw [htable, htally] at hlearner
  refine ⟨houtcomes, rfl, hlearner, ?_⟩
  show Learned.ofTable? lesson.program _ = Learned.ofTable? lesson.program _
  rw [htable]

/-- **Pure exploitation does not depend on the seed.** With an exploration rate of zero,
under either schedule and for any two seeds, all outcomes are the same, and after any
number of calls the two runs differ in nothing but the seed. Neither do any two runs of
a sweep. -/
theorem exploiting_runs_agree (hzero : ZeroRates K)
    (h : (lesson.params.epsilon == 0) = true) :
    (∀ seed seed' n elapsed elapsed',
      (lesson.withSeed seed).outcomes n (lesson.withSeed seed).start
        = (lesson.withSeed seed').outcomes n (lesson.withSeed seed').start ∧
      Run.SameButSeed
        ⟨lesson.withSeed seed,
          (lesson.withSeed seed).advances n (lesson.withSeed seed).start, elapsed⟩
        ⟨lesson.withSeed seed',
          (lesson.withSeed seed').advances n (lesson.withSeed seed').start, elapsed'⟩) ∧
    ∀ seeds, ∀ run ∈ (Sweep.mk lesson seeds).runs, ∀ run' ∈ (Sweep.mk lesson seeds).runs,
      run.SameButSeed run' := by
  have hnever : ∀ seed, (lesson.withSeed seed).NeverExplores := fun _ =>
    neverExplores_of_zero hzero h
  refine ⟨fun seed seed' => (hnever seed).sameButSeed seed',
    fun seeds run hrun run' hrun' => ?_⟩
  obtain ⟨seed, _, rfl⟩ := List.mem_map.mp hrun
  obtain ⟨seed', _, rfl⟩ := List.mem_map.mp hrun'
  exact ((hnever seed).sameButSeed seed' _ .zero .zero).2

/-- The trial lesson without exploring, in episodes of two steps: the rate is zero, and
decays. -/
def cautiousTrial : Lesson Rat where
  program := trial.program
  params := { trial.params with epsilon := 0, steps := 2 }
  schedule := .decaying

/-- Two seeds for the trial lesson without exploring, whose streams differ. -/
theorem exploiting_runs_agree_trial :
    ZeroRates Rat ∧ (cautiousTrial.params.epsilon == 0) = true ∧
    (cautiousTrial.withSeed 1).outcomes 10 (cautiousTrial.withSeed 1).start
      = (cautiousTrial.withSeed 2).outcomes 10 (cautiousTrial.withSeed 2).start ∧
    ((cautiousTrial.withSeed 1).advances 10 (cautiousTrial.withSeed 1).start).random
      ≠ ((cautiousTrial.withSeed 2).advances 10 (cautiousTrial.withSeed 2).start).random ∧
    ∀ run ∈ (Sweep.mk cautiousTrial [1, 2, 3]).runs,
      ∀ run' ∈ (Sweep.mk cautiousTrial [1, 2, 3]).runs,
      run.SameButSeed run' := by
  have hrate : (cautiousTrial.params.epsilon == 0) = true := by decide +kernel
  have hagree := exploiting_runs_agree zeroRates_rational hrate
  exact ⟨zeroRates_rational, hrate, (hagree.1 1 2 10 .zero .zero).1, by decide +kernel,
    hagree.2 [1, 2, 3]⟩

end Lesson

end LatticeLP

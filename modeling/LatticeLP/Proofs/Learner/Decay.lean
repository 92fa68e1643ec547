import LatticeLP.Proofs.Lattice.Rounding
import LatticeLP.Proofs.Learner.Simulation
import LatticeLP.Proofs.Scalar.Comparable

/-!
# Decaying rates

In exact arithmetic the rate of a decaying schedule in an episode is the configured rate
times a power of the factor of decay, or the floor if that is higher (`rate_decaying`).
The exponent is the number of the episode, and stays where it is from some episode on.
The factor is below one, so the rate never increases; the configured rate is where it
begins, and the floor, or the configured rate if that is lower, is where it stays above.

A configured rate that is not above the floor does not decay. Schedules enter a run
through the rates of its episodes alone (`Transition.withSchedule`), and a lesson with
such a rate is therefore the same under either schedule.
-/

namespace LatticeLP

namespace Schedule

variable {base : Rat} {e e' : Nat}

/-- What is left of a rate of one after some episodes. -/
def remainder (episode : Nat) : Rat :=
  decay ^ min episode lastDistinct

@[simp] theorem remainder_zero : remainder 0 = 1 := by
  rw [remainder, Nat.zero_min, pow_zero]

/-- **Of a rate, less and less is left**, even where the exponent no longer grows. -/
theorem remainder_antitone : Antitone remainder := fun _ _ h =>
  pow_le_pow_of_le_one (by norm_num [decay]) (by norm_num [decay])
    (min_le_min_right lastDistinct h)

/-- **The rate in closed form.** -/
theorem rate_decaying (base : Rat) (episode : Nat) :
    decaying.rate base episode = max (min floor base) (base * remainder episode) := by
  have hdecayed : decayed base episode = base * remainder episode := by
    rw [decayed, exponent_eq, Scalar.power_rational, zpow_natCast, remainder]
  rw [rate, larger_rational, lesser_rational, hdecayed]

theorem floor_le_rate (base : Rat) (episode : Nat) :
    min floor base ≤ decaying.rate base episode :=
  rate_decaying base episode ▸ le_max_left _ _

theorem rate_antitone (hbase : 0 ≤ base) :
    Antitone (decaying.rate base) := fun e e' h => by
  rw [rate_decaying, rate_decaying]
  exact max_le_max_left _ (mul_le_mul_of_nonneg_left (remainder_antitone h) hbase)

/-- Decay begins at the configured rate. -/
theorem rate_zero (base : Rat) : decaying.rate base 0 = base := by
  rw [rate_decaying, remainder_zero, mul_one, max_eq_right (min_le_right _ _)]

theorem rate_le (hbase : 0 ≤ base) (episode : Nat) : decaying.rate base episode ≤ base :=
  (rate_antitone hbase episode.zero_le).trans_eq (rate_zero base)

/-- **A rate that is not above the floor does not decay.** -/
theorem rate_of_le_floor (hbase : 0 ≤ base) (hfloor : base ≤ floor) (episode : Nat) :
    decaying.rate base episode = base := by
  have habove := floor_le_rate base episode
  rw [min_eq_right hfloor] at habove
  exact le_antisymm (rate_le hbase episode) habove

end Schedule

namespace Lesson

section Schedules

variable {K : Type} [Scalar K] {lesson : Lesson K} {l l' : Learner K}
  {o : Option (Step K)} {s : Schedule}

/-- The lesson under another schedule. -/
def withSchedule (lesson : Lesson K) (s : Schedule) : Lesson K :=
  { lesson with schedule := s }

/-- **Under a schedule with the same rate the same transition is made.** -/
theorem Transition.withSchedule (ht : lesson.Transition l o l')
    (hrate : s.rate lesson.params.epsilon l.episode
      = lesson.schedule.rate lesson.params.epsilon l.episode) :
    (lesson.withSchedule s).Transition l o l' := by
  have hchoice : (lesson.withSchedule s).choice l = lesson.choice l := by
    have hepsilon : (lesson.withSchedule s).epsilon l = lesson.epsilon l := hrate
    rw [choice, hepsilon]
    rfl
  have hcandidate : (lesson.withSchedule s).candidate l = lesson.candidate l := by
    rw [candidate, hchoice]
    rfl
  cases ht with
  | opening hphase => exact .opening hphase
  | accepted hphase hfeasible =>
    rw [← hcandidate] at hfeasible ⊢
    rw [← hchoice]
    exact .accepted hphase hfeasible
  | rejected hphase hinfeasible =>
    rw [← hcandidate] at hinfeasible ⊢
    rw [← hchoice]
    exact .rejected hphase hinfeasible
  | closing hphase => exact .closing hphase
  | resting hphase => exact .resting hphase

/-- **Under schedules with the same rates a lesson is the same.** -/
theorem simulation_withSchedule
    (hrate : ∀ episode,
      s.rate lesson.params.epsilon episode
      = lesson.schedule.rate lesson.params.epsilon episode) :
    Simulation lesson (lesson.withSchedule s) Eq := by
  rintro l _ o m rfl ht
  exact ⟨m, ht.withSchedule (hrate l.episode), rfl⟩

end Schedules

variable {params : Params Rat}

/-- **A rate of at most the floor is used as if it were constant.** -/
theorem simulation_constant (program : Program Rat) (valid : params.Valid)
    (hfloor : params.epsilon ≤ Schedule.floor) :
    Simulation ⟨program, params, .decaying⟩ ⟨program, params, .constant⟩ Eq := by
  let lesson : Lesson Rat := ⟨program, params, .decaying⟩
  have sim : Simulation lesson (lesson.withSchedule .constant) Eq :=
    simulation_withSchedule fun episode =>
    (Schedule.rate_of_le_floor (Params.valid_iff.mp valid).1.1 hfloor episode).symm
  exact sim

/-- **Rates decay from where they are configured to the floor at most**, and a run whose
rate is not above the floor is that of a constant rate: it begins if that does and in
the same way, and after any number of calls it has returned the same and is in the same
state. -/
theorem decaying_rates_and_runs :
    (∀ base : Rat, 0 ≤ base → base ≤ 1 → ∀ e e' : Nat, e ≤ e' →
      min Schedule.floor base ≤ Schedule.decaying.rate base e' ∧
      Schedule.decaying.rate base e' ≤ Schedule.decaying.rate base e ∧
      Schedule.decaying.rate base e ≤ base ∧ Schedule.decaying.rate base 0 = base) ∧
    (∀ (program : Program Rat) (params : Params Rat), params.epsilon ≤ Schedule.floor →
      let decaying : Lesson Rat := ⟨program, params, .decaying⟩
      let constant : Lesson Rat := ⟨program, params, .constant⟩
      decaying.start? = constant.start? ∧ ∀ l₀, decaying.start? = .ok l₀ → ∀ n,
        decaying.outcomes n l₀ = constant.outcomes n l₀ ∧
        decaying.advances n l₀ = constant.advances n l₀ ∧
        decaying.run l₀ = constant.run l₀) := by
  refine ⟨fun base hbase _ e e' h => ?_,
    fun program params hfloor => ⟨rfl, fun l₀ hstart n => ?_⟩⟩
  · exact ⟨Schedule.floor_le_rate base e', Schedule.rate_antitone hbase h,
      Schedule.rate_le hbase e, Schedule.rate_zero base⟩
  · have sim := simulation_constant program (start?_eq_ok_iff.mp hstart).1 hfloor
    exact ⟨(sim.run rfl n).1, (sim.run rfl n).2, (sim.run rfl _).2⟩

/-- The trial lesson with a rate at the floor, under a decaying schedule. -/
def steadyTrial : Lesson Rat :=
  ⟨trial.program, { trial.params with epsilon := 1 / 20 }, .decaying⟩

/-- The rate of one, at the beginning, after an episode, and beyond the episodes that
are told apart; and a lesson whose rate is at the floor. -/
theorem decaying_rates_and_runs_trial :
    Schedule.decaying.rate (1 : Rat) 0 = 1 ∧
      Schedule.decaying.rate (1 : Rat) 1 = 99 / 100 ∧
    min Schedule.floor 1 ≤ Schedule.decaying.rate (1 : Rat) 0x100000000 ∧
    Schedule.decaying.rate (1 : Rat) 0x100000000 ≤ 99 / 100 ∧
    steadyTrial.start? = .ok steadyTrial.start ∧
    steadyTrial.run steadyTrial.start
      = (steadyTrial.withSchedule .constant).run steadyTrial.start := by
  have hone : Schedule.decaying.rate (1 : Rat) 1 = 99 / 100 := by decide +kernel
  have hstart : steadyTrial.start? = .ok steadyTrial.start :=
    start?_eq_ok_iff.mpr ⟨by decide +kernel, rfl⟩
  obtain ⟨hlow, hhigh, -, hzero⟩ :=
    decaying_rates_and_runs.1 1 zero_le_one le_rfl 1 0x100000000 (by decide)
  have hruns :=
    decaying_rates_and_runs.2 trial.program steadyTrial.params (by decide +kernel)
  exact ⟨hzero, hone, hlow, hone ▸ hhigh, hstart, (hruns.2 _ hstart 0).2.2⟩

end Lesson

end LatticeLP

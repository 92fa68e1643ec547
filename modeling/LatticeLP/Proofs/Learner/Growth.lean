import Mathlib.Tactic.LinearCombination
import LatticeLP.Proofs.Learner.Extension
import LatticeLP.Proofs.Learner.Greedy
import LatticeLP.Proofs.Learner.KeyRange

/-!
# How an estimate grows

If an episode is one step and nothing is explored, a run repeats itself. In each episode
it moves from the origin to `(step, 0)` and earns the objective there, and the one
estimate that changes is that of the origin.

It takes an argument that the move stays the same while the estimate of the origin
changes, for the policy may be looking at just that estimate. Opposite numbers round to
opposite integers, so that the four positions around the origin either all have the key
of the origin or all have other keys (`keyOf_apply_origin_iff`). They all read the same
in either case, and the first move is taken.

The cases differ in how the estimate changes, by `q ↦ (1 - α) q + α (r + δ q)`, where
`δ` is `γ` if the position ahead has the key of the origin and zero if it has not. The
estimate after `n` steps is `growth`, which tends to `r / (1 - δ)` from the side of
zero.
-/

namespace LatticeLP

/-! ## The recurrence -/

/-- **The estimate after `n` updates** with reward `r` and rate `α`, if it is its own
successor with discount `δ`. -/
def growth (r α δ : Rat) (n : Nat) : Rat :=
  r / (1 - δ) * (1 - (1 - α * (1 - δ)) ^ n)

section Growth

variable {r α δ : Rat}

@[simp] theorem growth_zero (r α δ : Rat) : growth r α δ 0 = 0 := by
  rw [growth, pow_zero, sub_self, mul_zero]

/-- **One more update.** -/
theorem growth_succ (r α : Rat) (hδ : δ < 1) (n : Nat) :
    growth r α δ (n + 1) = (1 - α) * growth r α δ n + α * (r + δ * growth r α δ n) := by
  have hne : 1 - δ ≠ 0 := (sub_pos.mpr hδ).ne'
  have hr : r / (1 - δ) * (1 - δ) = r := div_mul_cancel₀ r hne
  rw [growth, growth, pow_succ]
  linear_combination α * hr

/-- An estimate that is not its own successor. -/
theorem growth_of_zero (r α : Rat) (n : Nat) :
    growth r α 0 n = r * (1 - (1 - α) ^ n) := by
  rw [growth, sub_zero, div_one, mul_one]

/-- **More updates with a reward that is not negative do not lower the estimate.** -/
theorem growth_mono (hr : 0 ≤ r) (hα : 0 < α) (hα' : α ≤ 1) (hδ : 0 ≤ δ) (hδ' : δ < 1) :
    Monotone (growth r α δ) := by
  have hfactor : 0 < 1 - δ := sub_pos.mpr hδ'
  have hratio : 0 ≤ 1 - α * (1 - δ) :=
    sub_nonneg.mpr (mul_le_one₀ hα' hfactor.le (sub_le_self 1 hδ))
  have hratio' : 1 - α * (1 - δ) ≤ 1 := sub_le_self 1 (by positivity)
  intro m n hmn
  exact mul_le_mul_of_nonneg_left
    (sub_le_sub_left (pow_le_pow_of_le_one hratio hratio' hmn) 1)
    (div_nonneg hr hfactor.le)

end Growth

namespace Lesson

variable {lesson : Lesson Rat} {l l' l₀ : Learner Rat} {o : Option (Step Rat)}
  {t : Table Rat} {n : Nat}

/-! ## Around the origin -/

/-- The position to the right of the origin. -/
def ahead (lesson : Lesson Rat) : Point Rat :=
  ⟨lesson.params.step, 0⟩

/-- A move from the origin leads as far as it goes. -/
theorem apply_origin (m : Move) (step : Rat) :
    m.apply .origin step = m.displacement step :=
  congrArg₂ Point.mk (zero_add _) (zero_add _)

/-- **Either all positions around the origin have its key or none has**, by the symmetry
of rounding. -/
theorem keyOf_apply_origin_iff (valid : lesson.params.Valid) (m : Move) :
    lesson.keyOf (m.apply .origin lesson.params.step) = lesson.keyOf .origin ↔
      roundRational (lesson.params.step * 10 ^ lesson.params.precision) = 0 := by
  have hstep := valid.step_pos.le
  have hsteps : (1 : Rat) ≤ lesson.params.steps := Nat.one_le_cast.mpr valid.steps_pos
  have hreach : lesson.params.step ≤ lesson.params.step * lesson.params.steps :=
    le_mul_of_one_le_right hstep hsteps
  have hzero : |(0 : Rat)| ≤ lesson.params.step * lesson.params.steps := by
    rw [abs_zero]
    exact hstep.trans hreach
  obtain ⟨hx, hy⟩ := m.abs_displacement_le hstep
  rw [apply_origin, keyOf, keyOf,
    valid.ofPoint_of_abs_le (hx.trans hreach) (hy.trans hreach),
    valid.ofPoint_of_abs_le (p := .origin) hzero hzero]
  cases m <;> simp [Move.displacement, roundRational_neg]

/-- **The first move is taken at the origin**, as long as no key but that of the origin
reads other than zero. -/
theorem greedy_origin (valid : lesson.params.Valid)
    (hzero : ∀ k ≠ lesson.keyOf .origin, t.get k = 0) :
    lesson.policy.greedy t .origin Move.all = .right := by
  have hread : ∀ m : Move, t.get (lesson.policy.successor .origin m)
      = if roundRational (lesson.params.step * 10 ^ lesson.params.precision) = 0
        then t.get (lesson.keyOf .origin) else 0 := by
    intro m
    have hsuccessor : lesson.policy.successor .origin m
        = lesson.keyOf (m.apply .origin lesson.params.step) := rfl
    rw [hsuccessor]
    split
    · next hshared => rw [(keyOf_apply_origin_iff valid m).mpr hshared]
    · next hapart => exact hzero _ (mt (keyOf_apply_origin_iff valid m).mp hapart)
  refine Policy.greedy_cons_eq ordered_rational (fun _ _ => le_rfl) fun m _ => ?_
  rw [hread m, hread .right]

/-! ## Steps from the origin -/

/-- The discount of the estimate of the origin in its own update. -/
def selfDiscount (lesson : Lesson Rat) : Rat :=
  if lesson.keyOf lesson.ahead = lesson.keyOf .origin then lesson.params.gamma else 0

theorem selfDiscount_nonneg_lt_one (valid : lesson.params.Valid) :
    0 ≤ lesson.selfDiscount ∧ lesson.selfDiscount < 1 := by
  unfold selfDiscount
  split
  · exact (Params.valid_iff.mp valid).2.2.1
  · exact ⟨le_rfl, zero_lt_one⟩

/-- The estimate of the origin after `n` steps. -/
def grown (lesson : Lesson Rat) (n : Nat) : Rat :=
  growth (lesson.program.value lesson.ahead) lesson.params.alpha lesson.selfDiscount n

/-- **A run that only ever steps ahead from the origin**, and what it has learned from
that. -/
structure Grown (lesson : Lesson Rat) (l : Learner Rat) : Prop where
  /-- Steps start at the origin, and each is the last of its episode. -/
  position : l.phase = .stepInProgress → l.position = .origin ∧ l.step = 0
  /-- All steps are taken ahead. -/
  trail : l.trail = List.replicate l.tally.steps lesson.ahead
  /-- The key of the origin is the only one. -/
  keys : l.table.keys = if l.tally.steps = 0 then [] else [lesson.keyOf .origin]
  /-- Its estimate has grown with the steps. -/
  get : l.table.get (lesson.keyOf .origin) = lesson.grown l.tally.steps

theorem grown_start (lesson : Lesson Rat) : lesson.Grown lesson.start where
  position h := nomatch h
  trail := rfl
  keys := rfl
  get := (Table.get_empty _).trans (growth_zero _ _ _).symm

namespace Grown

variable (h : lesson.Grown l)

include h

theorem contains_iff (k : Key) :
    l.table.contains k = true ↔ l.tally.steps ≠ 0 ∧ k = lesson.keyOf .origin := by
  rw [← Table.mem_keys, h.keys]
  split
  · next hzero => exact iff_of_false List.not_mem_nil fun hk => hk.1 hzero
  · next hpos => rw [List.mem_singleton, and_iff_right hpos]

/-- The table knows the origin from then on at the latest. -/
theorem keys_set (v : Rat) :
    (l.table.set (lesson.keyOf .origin) v).keys = [lesson.keyOf .origin] := by
  rw [Table.keys_set, h.keys]
  by_cases hzero : l.tally.steps = 0
  · rw [if_neg fun hcontains => ((h.contains_iff _).mp hcontains).1 hzero, if_pos hzero,
      List.nil_append]
  · rw [if_pos ((h.contains_iff _).mpr ⟨hzero, rfl⟩), if_neg hzero]

/-- No other key reads anything. -/
theorem get_of_ne (k : Key) (hk : k ≠ lesson.keyOf .origin) : l.table.get k = 0 :=
  Table.get_of_contains_eq_false
    (Bool.eq_false_iff.mpr fun hcontains => hk ((h.contains_iff k).mp hcontains).2)

/-- What the position ahead reads counts as far as it is the estimate of the origin. -/
theorem gamma_mul_get :
    lesson.params.gamma * l.table.get (lesson.keyOf lesson.ahead)
      = lesson.selfDiscount * l.table.get (lesson.keyOf .origin) := by
  unfold selfDiscount
  split
  · next hshared => rw [hshared]
  · next hapart => rw [h.get_of_ne _ hapart, mul_zero, zero_mul]

/-- **A step that is not random is taken ahead.** -/
theorem candidate_eq (valid : lesson.params.Valid) (hnever : lesson.NeverExplores)
    (hphase : l.phase = .stepInProgress) : lesson.candidate l = lesson.ahead := by
  rw [candidate, hnever.choice_fst, (h.position hphase).1,
    greedy_origin valid h.get_of_ne, apply_origin]
  rfl

/-- The entries of the table. -/
theorem entries_eq :
    l.table.entries = if l.tally.steps = 0 then []
      else [(lesson.keyOf .origin, lesson.grown l.tally.steps)] := by
  rw [Table.entries_eq_map, h.keys]
  split
  · rfl
  · rw [List.map_singleton, h.get]

end Grown

/-- **Every transition keeps the estimate of the origin growing**, and nothing else. -/
theorem Transition.grown (valid : lesson.params.Valid) (hnever : lesson.NeverExplores)
    (hsteps : lesson.params.steps = 1) (hfeasible : lesson.program.Feasible lesson.ahead)
    (ht : lesson.Transition l o l') (h : lesson.Grown l) : lesson.Grown l' := by
  cases ht with
  | opening _ => exact ⟨fun _ => ⟨rfl, rfl⟩, h.trail, h.keys, h.get⟩
  | accepted hphase _ =>
    obtain ⟨hposition, hstep⟩ := h.position hphase
    have hcandidate := h.candidate_eq valid hnever hphase
    have hreward : lesson.reward l.step lesson.ahead
        = lesson.program.value lesson.ahead :=
      if_pos (by rw [hstep, hsteps])
    refine ⟨fun hafter => ?_, ?_, ?_, ?_⟩
    · exact absurd (lt_of_phaseAfter hafter) (by omega)
    · show lesson.candidate l :: l.trail = _
      rw [hcandidate, h.trail, List.replicate_succ]
    · show (Table.set _ _ _).keys = _
      rw [hposition, if_neg (Nat.succ_ne_zero _), h.keys_set]
    · show (Table.set _ _ _).get _ = _
      rw [Table.get_set, hposition, if_pos rfl, estimate, hcandidate, hreward,
        h.gamma_mul_get, h.get]
      exact (growth_succ _ _ (selfDiscount_nonneg_lt_one valid).2 _).symm
  | rejected hphase hinfeasible =>
    exact absurd hfeasible (h.candidate_eq valid hnever hphase ▸ hinfeasible)
  | closing _ =>
    refine ⟨fun hafter => ?_, h.trail, h.keys, h.get⟩
    dsimp only at hafter
    split at hafter <;> cases hafter
  | resting _ => exact h

/-! ## Along a run -/

section Run

variable (valid : lesson.params.Valid) (hsteps : lesson.params.steps = 1)
  (hepsilon : lesson.params.epsilon = 0)
  (hfeasible : lesson.program.Feasible lesson.ahead)

include valid

/-- A completed run has been through all episodes. -/
theorem run_start :
    lesson.run lesson.start
      = lesson.advances (lesson.episodeLength * lesson.params.episodes) lesson.start := by
  rw [Nat.mul_comm]
  exact run_advances valid 0

include hsteps

/-- There are as many steps as episodes. -/
theorem steps_episodes {N : Nat} (hN : N ≤ lesson.params.episodes) :
    (lesson.advances (lesson.episodeLength * N) lesson.start).tally.steps = N := by
  have hstands := (stands_episodes valid hN).1.steps
  rwa [hsteps, mul_one, Nat.zero_sub, Nat.zero_min, add_zero] at hstands

include hepsilon hfeasible

theorem grown_advances (n : Nat) : lesson.Grown (lesson.advances n lesson.start) :=
  have hnever := neverExplores_of_zero zeroRates_rational (beq_iff_eq.mpr hepsilon)
  advances_invariant (fun _ _ _ h ht => ht.grown valid hnever hsteps hfeasible h)
    (grown_start lesson) n

/-- The estimate of the origin after `N` episodes. -/
theorem get_episodes {N : Nat} (hN : N ≤ lesson.params.episodes) :
    (lesson.advances (lesson.episodeLength * N) lesson.start).table.get
      (lesson.keyOf .origin)
      = lesson.grown N := by
  have hgrown :=
    (grown_advances valid hsteps hepsilon hfeasible (lesson.episodeLength * N)).get
  rwa [steps_episodes valid hsteps hN] at hgrown

/-- The estimate of the origin in the end. -/
theorem get_run :
    (lesson.run lesson.start).table.get (lesson.keyOf .origin)
      = lesson.grown lesson.params.episodes := by
  rw [run_start valid]
  exact get_episodes valid hsteps hepsilon hfeasible le_rfl

/-- **The state after `N` episodes.** -/
theorem episodes_eq {N : Nat} (hN : N ≤ lesson.params.episodes) :
    let l := lesson.advances (lesson.episodeLength * N) lesson.start
    l.episode = N ∧ l.trajectory = List.replicate N lesson.ahead ∧
      l.table.entries = if N = 0 then []
        else [(lesson.keyOf .origin, lesson.grown N)] := by
  intro l
  have hgrown : lesson.Grown l := grown_advances valid hsteps hepsilon hfeasible _
  have hcount : l.tally.steps = N := steps_episodes valid hsteps hN
  refine ⟨(stands_episodes valid hN).1.episode, ?_, ?_⟩
  · rw [Learner.trajectory, hgrown.trail, List.reverse_replicate, hcount]
  · rw [hgrown.entries_eq, hcount]

end Run

/-- **One greedy step in each episode.** In exact arithmetic, if `(step, 0)` is
feasible, a run with episodes of one step and an exploration rate of zero, under either
schedule and for any seed, takes that step in all its episodes. After `N` of them the
trajectory is `N` copies of the point, and the table has the key of the origin alone,
once it has any. With `r` the objective at the point, its estimate is
`r (1 - (1 - α) ^ N)` if the point has another key, and
`r / (1 - γ) (1 - (1 - α (1 - γ)) ^ N)` if it has the same. So if `r` is not negative,
the estimate is no lower after more episodes, nor at the end of a lesson that has more
of them. -/
theorem one_step_episodes (h : lesson.start? = .ok l₀) (hsteps : lesson.params.steps = 1)
    (hepsilon : lesson.params.epsilon = 0)
    (hfeasible : lesson.program.Feasible ⟨lesson.params.step, 0⟩) :
    let r := lesson.program.value ⟨lesson.params.step, 0⟩
    let α := lesson.params.alpha
    let γ := lesson.params.gamma
    let origin := lesson.keyOf .origin
    let after N := lesson.advances (lesson.episodeLength * N) l₀
    (∀ N ≤ lesson.params.episodes, (after N).episode = N ∧
      (after N).trajectory = List.replicate N ⟨lesson.params.step, 0⟩ ∧
      (N = 0 → (after N).table.entries = []) ∧
      (1 ≤ N → lesson.keyOf ⟨lesson.params.step, 0⟩ ≠ origin →
        (after N).table.entries = [(origin, r * (1 - (1 - α) ^ N))]) ∧
      (1 ≤ N → lesson.keyOf ⟨lesson.params.step, 0⟩ = origin →
        (after N).table.entries
          = [(origin, r / (1 - γ) * (1 - (1 - α * (1 - γ)) ^ N))])) ∧
    lesson.run l₀ = after lesson.params.episodes ∧
    (0 ≤ r →
      (∀ M N, M ≤ N → N ≤ lesson.params.episodes →
        (after M).table.get origin ≤ (after N).table.get origin) ∧
      ∀ n, lesson.params.episodes ≤ n →
        (lesson.run l₀).table.get origin
          ≤ ((lesson.withEpisodes n).run l₀).table.get origin) := by
  intro r α γ origin after
  obtain ⟨valid, rfl⟩ := start?_eq_ok_iff.mp h
  refine ⟨fun N hN => ?_, run_start valid, fun hr => ?_⟩
  · obtain ⟨hepisode, htrajectory, hentries⟩ :=
      episodes_eq valid hsteps hepsilon hfeasible hN
    refine ⟨hepisode, htrajectory, fun hzero => ?_, fun hpos hapart => ?_,
      fun hpos hshared => ?_⟩
    · exact hentries.trans (if_pos hzero)
    · have hδ : lesson.selfDiscount = 0 := if_neg hapart
      rw [if_neg (Nat.ne_of_gt hpos), grown, hδ, growth_of_zero] at hentries
      exact hentries
    · have hδ : lesson.selfDiscount = γ := if_pos hshared
      rw [if_neg (Nat.ne_of_gt hpos), grown, hδ] at hentries
      exact hentries
  · obtain ⟨_, hα, _⟩ := Params.valid_iff.mp valid
    obtain ⟨hδ, hδ'⟩ := selfDiscount_nonneg_lt_one valid
    have hmono : Monotone lesson.grown := growth_mono hr hα.1 hα.2 hδ hδ'
    refine ⟨fun M N hMN hN => ?_, fun n hn => ?_⟩
    · show (lesson.advances _ _).table.get (lesson.keyOf .origin)
        ≤ (lesson.advances _ _).table.get _
      rw [get_episodes valid hsteps hepsilon hfeasible (hMN.trans hN),
        get_episodes valid hsteps hepsilon hfeasible hN]
      exact hmono hMN
    · obtain ⟨valid', _⟩ := start?_eq_ok_iff.mp (start?_withEpisodes h hn)
      exact (get_run valid hsteps hepsilon hfeasible).trans_le ((hmono hn).trans_eq
        (get_run valid' hsteps hepsilon hfeasible).symm)

/-- Three episodes of one step of a given length on the sample program. -/
def treadmill (step : Rat) : Lesson Rat where
  program := .sample
  params := { Params.standard with epsilon := 0, step := step, episodes := 3, steps := 1 }
  schedule := .decaying

/-- A step of three units of the last digit that keys keep, and one of a tenth of it. -/
theorem one_step_episodes_treadmill :
    (∀ step ∈ [3 / 10, 1 / 100], (treadmill step).start? = .ok (treadmill step).start ∧
      (treadmill step).params.steps = 1 ∧ (treadmill step).params.epsilon = 0 ∧
      (treadmill step).program.Feasible ⟨(treadmill step).params.step, 0⟩) ∧
    ((treadmill (3 / 10)).advances 6 (treadmill (3 / 10)).start).table.entries
      = [(⟨0, 0, 1⟩, 297 / 100)] ∧
    ((treadmill (1 / 100)).advances 6 (treadmill (1 / 100)).start).table.entries
      = [(⟨0, 0, 1⟩, 1719 / 10000)] := by
  have hstart : ∀ step ∈ [3 / 10, 1 / 100],
    (treadmill step).start? = .ok (treadmill step).start ∧
      (treadmill step).params.steps = 1 ∧ (treadmill step).params.epsilon = 0 ∧
      (treadmill step).program.Feasible ⟨(treadmill step).params.step, 0⟩ := by
    simp only [start?_eq_ok_iff]
    decide +kernel
  obtain ⟨hstart₁, hsteps₁, hepsilon₁, hfeasible₁⟩ := hstart (3 / 10) List.mem_cons_self
  obtain ⟨hstart₂, hsteps₂, hepsilon₂, hfeasible₂⟩ :=
    hstart (1 / 100) (List.mem_cons_of_mem _ List.mem_cons_self)
  have hapart :=
    ((one_step_episodes hstart₁ hsteps₁ hepsilon₁ hfeasible₁).1 2 (by decide)).2.2.2.1
      (by decide) (by decide +kernel)
  have hshared :=
    ((one_step_episodes hstart₂ hsteps₂ hepsilon₂ hfeasible₂).1 2 (by decide)).2.2.2.2
      (by decide) (by decide +kernel)
  refine ⟨hstart, hapart.trans ?_, hshared.trans ?_⟩
  · decide +kernel
  · decide +kernel

end Lesson

end LatticeLP

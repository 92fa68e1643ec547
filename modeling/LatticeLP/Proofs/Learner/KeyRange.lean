import LatticeLP.Proofs.Learner.Answer
import LatticeLP.Proofs.Learner.Episodes

/-!
# The range of keys

Keys are taken of more points than a run visits. A step takes the key of the position it
starts from, and to choose a move the policy takes the keys of all four positions around
it – of refused ones too, which may lie outside the region, outside the quadrant, and
one move further than any position of the episode so far.

The check of parameters bounds one number, how far an episode can get from the origin,
and that is just enough. A step is taken only while the episode has steps left, so the
position is at most one step short of that distance, and one move does not lead beyond
it (`Gridded.abs_le_of_keyed`). The bound is reached by a walk that goes the same way in
all its steps. Within it no coordinate is cut off at the ends of 64 bits, so that keys
are the nearest integers they are meant to be (`Params.Valid.ofPoint_of_abs_le`).
-/

namespace LatticeLP

/-! ## Distances -/

/-- A move changes a coordinate by a step at most. -/
theorem Move.abs_displacement_le {step : Rat} (hstep : 0 ≤ step) (move : Move) :
    |(move.displacement step).x| ≤ step ∧ |(move.displacement step).y| ≤ step := by
  cases move <;> simp [displacement, abs_of_nonneg hstep, hstep]

/-- **A key taken within reach is the rounded point.** -/
theorem Params.Valid.ofPoint_of_abs_le {params : Params Rat} {p : Point Rat}
    (valid : params.Valid)
    (hx : |p.x| ≤ params.step * params.steps) (hy : |p.y| ≤ params.step * params.steps) :
    Key.ofPoint params.precision p = ⟨roundRational (p.x * 10 ^ params.precision),
      roundRational (p.y * 10 ^ params.precision), params.precision⟩ := by
  have hunit : (0 : Rat) < 10 ^ params.precision := by positivity
  exact Key.ofPoint_of_inRange valid.precision_lt (.of_abs_le hunit hx valid.reach_le)
    (.of_abs_le hunit hy valid.reach_le)

namespace Lesson

/-! ## The points of which keys are taken -/

section Keyed

variable {K : Type} [Scalar K]

/-- **The points of which the next transition takes keys**: where a step starts from,
and where each of the moves leads. -/
inductive Keyed (lesson : Lesson K) (l : Learner K) : Point K → Prop where
  /-- The position, whose estimate a step may change. -/
  | position (phase : l.phase = .stepInProgress) : Keyed lesson l l.position
  /-- The positions that the policy compares. -/
  | successor (phase : l.phase = .stepInProgress) (move : Move) :
    Keyed lesson l (move.apply l.position lesson.params.step)

/-- The position that a step tries is one of them, whichever way its move was chosen. -/
theorem keyed_candidate {lesson : Lesson K} {l : Learner K}
    (h : l.phase = .stepInProgress) :
    lesson.Keyed l (lesson.candidate l) :=
  .successor h (lesson.choice l).1

end Keyed

variable {lesson : Lesson Rat} {l : Learner Rat} {p : Point Rat}

/-- **One move past the position is still within reach**, since the step that makes it
is not yet counted. -/
theorem Gridded.abs_le_of_keyed (valid : lesson.params.Valid) (h : lesson.Gridded l)
    (hp : lesson.Keyed l p) :
    |p.x| ≤ lesson.params.step * lesson.params.steps ∧
      |p.y| ≤ lesson.params.step * lesson.params.steps := by
  have hstep := valid.step_pos.le
  obtain ⟨hx, hy⟩ := h.position.abs_le hstep
  have hcount : ∀ {n : Nat}, n ≤ lesson.params.steps →
      (n : Rat) * lesson.params.step ≤ lesson.params.step * lesson.params.steps :=
        fun hn => by
    rw [mul_comm]
    gcongr
  cases hp with
  | position _ => exact ⟨hx.trans (hcount h.step_le), hy.trans (hcount h.step_le)⟩
  | successor hphase move =>
    obtain ⟨hdx, hdy⟩ := move.abs_displacement_le hstep
    have hlast := hcount (h.step_lt hphase)
    rw [Nat.cast_succ, add_mul, one_mul] at hlast
    exact ⟨((abs_add_le _ _).trans (add_le_add hx hdx)).trans hlast,
      ((abs_add_le _ _).trans (add_le_add hy hdy)).trans hlast⟩

/-- **Trajectories are feasible walks within the range of keys.** In any arithmetic, a
trajectory consists of feasible points and falls into the walks of its episodes, which
start at the origin and proceed by moves. In exact arithmetic its points are lattice
points of the quadrant with no more steps along both axes together than an episode has,
and each point of which a key is taken has scaled coordinates within the reach of an
episode and below `2 ^ 53`, so that its key is the rounded point. The position that a
step tries is such a point, whether it is accepted or not. -/
theorem walks_within_range :
    (∀ {K : Type} [Scalar K] {lesson : Lesson K} {l₀ : Learner K},
      lesson.start? = .ok l₀ → ∀ n,
      (∀ p ∈ (lesson.advances n l₀).trajectory, lesson.program.Feasible p) ∧
      (lesson.advances n l₀).trajectory
        = (List.range ((lesson.advances n l₀).episode + 1)).flatMap (lesson.walk l₀ n) ∧
      ∀ e, (Point.origin :: lesson.walk l₀ n e).IsChain fun p q =>
        ∃ move ∈ Move.all, q = move.apply p lesson.params.step) ∧
    ∀ {lesson : Lesson Rat} {l₀ : Learner Rat}, lesson.start? = .ok l₀ → ∀ n,
      (∀ p ∈ (lesson.advances n l₀).trajectory, ∃ i j : Nat, i + j ≤ lesson.params.steps ∧
        p = ⟨i * lesson.params.step, j * lesson.params.step⟩) ∧
      lesson.params.step * lesson.params.steps * 10 ^ lesson.params.precision < 2 ^ 53 ∧
      (∀ p, lesson.Keyed (lesson.advances n l₀) p →
        |p.x| * 10 ^ lesson.params.precision
          ≤ lesson.params.step * lesson.params.steps * 10 ^ lesson.params.precision ∧
        |p.y| * 10 ^ lesson.params.precision
          ≤ lesson.params.step * lesson.params.steps * 10 ^ lesson.params.precision ∧
        RoundsTo (p.x * 10 ^ lesson.params.precision) (lesson.keyOf p).x ∧
        RoundsTo (p.y * 10 ^ lesson.params.precision) (lesson.keyOf p).y) ∧
      ((lesson.advances n l₀).phase = .stepInProgress →
        lesson.Keyed (lesson.advances n l₀)
          (lesson.candidate (lesson.advances n l₀))) := by
  refine ⟨fun {_ _ lesson _} h n => ?_, fun h n => ?_⟩
  · obtain ⟨_, rfl⟩ := start?_eq_ok_iff.mp h
    have hwalks := walks_advances lesson n
    exact ⟨(traced_advances lesson n).feasible, hwalks.trajectory_eq, hwalks.chain⟩
  · obtain ⟨valid, rfl⟩ := start?_eq_ok_iff.mp h
    have hgridded := gridded_advances valid n
    refine ⟨hgridded.trajectory, valid.reach_lt.trans_eq (by norm_num), fun p hp => ?_,
      keyed_candidate⟩
    obtain ⟨hx, hy⟩ := hgridded.abs_le_of_keyed valid hp
    rw [keyOf, valid.ofPoint_of_abs_le hx hy]
    exact ⟨by gcongr, by gcongr, roundsTo_roundRational _, roundsTo_roundRational _⟩

/-- The walk of the first episode of the trial lesson, and the key of a point outside
the quadrant that the policy looks at before it. -/
theorem walks_within_range_trial : trial.start? = .ok trial.start ∧
    (∀ p ∈ (trial.advances 8 trial.start).trajectory, trial.program.Feasible p) ∧
    [Point.origin, ⟨5 / 4, 0⟩, ⟨5 / 2, 0⟩].IsChain (fun p q : Point Rat =>
      ∃ move ∈ Move.all, q = move.apply p trial.params.step) ∧
    trial.Keyed (trial.advances 2 trial.start) ⟨-5 / 4, 0⟩ ∧
    RoundsTo (-25 / 2) (trial.keyOf ⟨-5 / 4, 0⟩).x ∧
    trial.Keyed (trial.advances 2 trial.start)
      (trial.candidate (trial.advances 2 trial.start)) := by
  have hwalk : trial.walk trial.start 8 0 = [⟨5 / 4, 0⟩, ⟨5 / 2, 0⟩] := by decide +kernel
  have hphase : (trial.advances 2 trial.start).phase = .stepInProgress := by
    decide +kernel
  have hleft : (⟨-5 / 4, 0⟩ : Point Rat)
    = Move.left.apply (trial.advances 2 trial.start).position trial.params.step := by
      decide +kernel
  have hkeyed : trial.Keyed (trial.advances 2 trial.start) ⟨-5 / 4, 0⟩ :=
    hleft ▸ .successor hphase .left
  obtain ⟨hfeasible, _, hchain⟩ := walks_within_range.1 start?_trial 8
  obtain ⟨_, _, hkeys, hcandidate⟩ := walks_within_range.2 start?_trial 2
  have hrounds := (hkeys _ hkeyed).2.2.1
  rw [show (-5 / 4 : Rat) * 10 ^ trial.params.precision = -25 / 2 by decide +kernel]
    at hrounds
  exact ⟨start?_trial, hfeasible, hwalk ▸ hchain 0, hkeyed, hrounds, hcandidate hphase⟩

end Lesson

end LatticeLP

import LatticeLP.Comparison.Basic
import LatticeLP.Proofs.Lattice.NearestKey
import LatticeLP.Proofs.Learner.Walk
import LatticeLP.Proofs.Tableau.Verdict

/-!
# How far an answer is from the optimum

The answer of a run is the point of a key, and a key stands for a point that the run
visited. In exact arithmetic the two are at most half a unit of the last digit apart
along each axis (`near_of_visited`), and where the step is a whole number of such units
they are the same point. A visited point is feasible, so it is no better than the exact
optimum; what an answer can gain on the optimum is therefore what rounding can gain for
the objective, and no more.

This needs the origin to be feasible, since the key of the origin enters the table with
the first move.
-/

namespace LatticeLP

/-- **Nearby points have nearby values.** -/
theorem LinearForm.abs_value_sub_le (f : LinearForm Rat) {p q : Point Rat} {ε : Rat}
    (hx : |p.x - q.x| ≤ ε) (hy : |p.y - q.y| ≤ ε) :
    |f.value p - f.value q| ≤ ε * (|f.a| + |f.b|) := by
  have hsplit : f.value p - f.value q = f.a * (p.x - q.x) + f.b * (p.y - q.y) := by
    show f.a * p.x + f.b * p.y - (f.a * q.x + f.b * q.y) = _
    ring
  calc |f.value p - f.value q|
      ≤ |f.a * (p.x - q.x)| + |f.b * (p.y - q.y)| := hsplit ▸ abs_add_le _ _
    _ = |f.a| * |p.x - q.x| + |f.b| * |p.y - q.y| := by rw [abs_mul, abs_mul]
    _ ≤ |f.a| * ε + |f.b| * ε := by gcongr
    _ = ε * (|f.a| + |f.b|) := by ring

namespace Params

variable {params : Params Rat}

theorem Valid.precision_lt (h : params.Valid) : params.precision < 0x80000000 :=
  lt_of_le_of_lt (valid_iff.mp h).2.2.2.2.2.2.1 (by decide)

/-- **The reach of valid parameters is below the range of keys.** -/
theorem Valid.reach_lt (h : params.Valid) :
    params.step * params.steps * 10 ^ params.precision < 0x20000000000000 := by
  have hreach : params.step * params.steps * Key.scale params.precision < keyRange :=
    (valid_iff.mp h).2.2.2.2.2.2.2
  rw [Key.scale_rational h.precision_lt] at hreach
  exact hreach

theorem Valid.reach_le (h : params.Valid) :
    params.step * params.steps * 10 ^ params.precision ≤ 0x20000000000000 :=
  h.reach_lt.le

end Params

namespace Lesson

variable {lesson : Lesson Rat} {l l₀ : Learner Rat} {p : Point Rat} {a : Learned Rat}

/-- Visited points have keys in range. -/
theorem Gridded.inRange_of_visited (valid : lesson.params.Valid) (h : lesson.Gridded l)
    (hp : l.Visited p) :
    Key.InRange (p.x * 10 ^ lesson.params.precision) ∧
      Key.InRange (p.y * 10 ^ lesson.params.precision) :=
  (h.onLattice_of_visited hp).inRange valid.step_pos (by positivity) valid.reach_le

/-- **The point of a key is near the visited points it stands for**, and is that point
if the step keeps to the digits of keys. -/
theorem near_of_visited (valid : lesson.params.Valid) (h : lesson.Gridded l)
    (hp : l.Visited p) :
    |(lesson.keyOf p).point.x - p.x| ≤ 1 / 2 * (10 ^ lesson.params.precision)⁻¹ ∧
    |(lesson.keyOf p).point.y - p.y| ≤ 1 / 2 * (10 ^ lesson.params.precision)⁻¹ ∧
    ((∃ n : Int, lesson.params.step * 10 ^ lesson.params.precision = n) →
      p = (lesson.keyOf p).point) := by
  obtain ⟨hx, hy⟩ := h.inRange_of_visited valid hp
  obtain ⟨hmarkx, hmarky⟩ := Key.nearest_point_ofPoint valid.precision_lt hx hy
  refine ⟨hmarkx.near, hmarky.near, fun hint => ?_⟩
  obtain ⟨hintx, hinty⟩ := (h.onLattice_of_visited hp).exists_int hint
  exact (Key.point_ofPoint valid.precision_lt hx hy hintx hinty).symm

/-- **An answer is the point of the key of a visited point.** -/
theorem exists_visited_of_solution? (h : lesson.Traced l)
    (ha : lesson.solution? l = some a) :
    ∃ p, l.Visited p ∧ a.point = (lesson.keyOf p).point ∧
      a.objective = lesson.program.value a.point := by
  obtain ⟨hentry, hpoint, hobjective⟩ := Learned.ofTable?_eq_some ha
  obtain ⟨p, hp, hkey⟩ := h.keys a.key (Table.mem_entries.mp hentry).1
  exact ⟨p, hp, hkey ▸ hpoint, hobjective⟩

/-- **An answer is close to the feasible, and gains no more on the optimum than rounding
can give.** If the origin is feasible, the learned point is within half a unit of its
last digit of a feasible point that the run visited, and is that point if the step is a
whole number of such units; and the gap to the exact optimum is at least minus the
change of the objective over half a unit along both axes, or at least zero in that
case. -/
theorem learned_near_feasible (h : lesson.start? = .ok l₀)
    (horigin : lesson.program.Feasible .origin) {n : Nat}
    (ha : lesson.solution? (lesson.advances n l₀) = some a) :
    (∃ p, lesson.program.Feasible p ∧
      (p = .origin ∨ p ∈ (lesson.advances n l₀).trajectory) ∧
      |a.point.x - p.x| ≤ 1 / 2 * (10 ^ lesson.params.precision)⁻¹ ∧
      |a.point.y - p.y| ≤ 1 / 2 * (10 ^ lesson.params.precision)⁻¹ ∧
      ((∃ m : Int, lesson.params.step * 10 ^ lesson.params.precision = m) →
        p = a.point)) ∧
    ∀ budget opt elapsed, lesson.program.optimum? ⟨0, budget⟩ = .ok opt →
      ∃ gap, (Comparison.ofRun ⟨lesson, lesson.advances n l₀, elapsed⟩ opt).gap?
        = some gap ∧
        -(1 / 2 * (10 ^ lesson.params.precision)⁻¹
          * (|lesson.program.objective.a| + |lesson.program.objective.b|)) ≤ gap ∧
        ((∃ m : Int, lesson.params.step * 10 ^ lesson.params.precision = m) →
          0 ≤ gap) := by
  obtain ⟨valid, rfl⟩ := start?_eq_ok_iff.mp h
  have htraced := traced_advances lesson n
  obtain ⟨p, hp, hpoint, hobjective⟩ := exists_visited_of_solution? htraced ha
  have hfeasible := htraced.feasible_of_visited horigin hp
  have hnear := near_of_visited valid (gridded_advances valid n) hp
  rw [← hpoint] at hnear
  obtain ⟨hx, hy, hexact⟩ := hnear
  refine ⟨⟨p, hfeasible, hp, hx, hy, hexact⟩, fun budget opt elapsed hopt => ?_⟩
  -- the learned point need not be feasible; it is compared with the optimum through `p`
  have hle := (lesson.program.isMaximiser_of_optimum? hopt).2.2 p hfeasible
  refine ⟨opt.value - a.objective, ?_, ?_, fun hint => ?_⟩
  · show (lesson.solution? _).map _ = _
    rw [ha]
    rfl
  · have hvalue : lesson.program.value a.point - lesson.program.value p ≤ _ :=
      (le_abs_self _).trans (lesson.program.objective.abs_value_sub_le hx hy)
    rw [hobjective]
    linarith
  · rw [hobjective, ← hexact hint]
    linarith

/-- The answer of the trial lesson, which has learned `(1.3, 0)` in steps of `1.25`; and
with keys of two digits, which has learned the visited point `(1.25, 0)` itself. -/
theorem learned_near_feasible_trial :
    trial.start? = .ok trial.start ∧ trial.program.Feasible .origin ∧
    trial.solution? (trial.advances 10 trial.start)
      = some ⟨⟨13, 0, 1⟩, ⟨13 / 10, 0⟩, 99 / 4, 13⟩ ∧
    trial.program.optimum? ⟨0, 10⟩ = .ok ⟨⟨30 / 13, 42 / 13⟩, 636 / 13, 2⟩ ∧
    (∃ p, trial.program.Feasible p ∧ |13 / 10 - p.x| ≤ 1 / 2 * (10 ^ 1)⁻¹) ∧
    (∃ gap, (Comparison.ofRun ⟨trial, trial.advances 10 trial.start, .zero⟩
        ⟨⟨30 / 13, 42 / 13⟩, 636 / 13, 2⟩).gap? = some gap ∧
      -(1 / 2 * (10 ^ trial.params.precision)⁻¹
        * (|trial.program.objective.a| + |trial.program.objective.b|)) ≤ gap) ∧
    fineTrial.start? = .ok fineTrial.start ∧
    (∃ m : Int, fineTrial.params.step * 10 ^ fineTrial.params.precision = m) ∧
    fineTrial.solution? (fineTrial.advances 10 fineTrial.start)
      = some ⟨⟨125, 0, 2⟩, ⟨5 / 4, 0⟩, 99 / 4, 25 / 2⟩ ∧
    ((⟨5 / 4, 0⟩ : Point Rat) = .origin ∨
      ⟨5 / 4, 0⟩ ∈ (fineTrial.advances 10 fineTrial.start).trajectory) ∧
    ∃ gap, (Comparison.ofRun ⟨fineTrial, fineTrial.advances 10 fineTrial.start, .zero⟩
        ⟨⟨30 / 13, 42 / 13⟩, 636 / 13, 2⟩).gap? = some gap ∧ 0 ≤ gap := by
  obtain ⟨⟨p, hp, _, hx, _⟩, hgap⟩ :=
    learned_near_feasible start?_trial feasible_origin_trial solution?_trial
  obtain ⟨gap, hsome, hle, _⟩ := hgap 10 _ .zero optimum?_trial
  obtain ⟨⟨q, _, hvisited, _, _, hexact⟩, hfinegap⟩ :=
    learned_near_feasible start?_fineTrial feasible_origin_trial solution?_fineTrial
  obtain ⟨finegap, hfinesome, _, hfinele⟩ := hfinegap 10 _ .zero optimum?_trial
  have hanswer : q = ⟨5 / 4, 0⟩ := hexact exists_int_fineTrial
  exact ⟨start?_trial, feasible_origin_trial, solution?_trial, optimum?_trial,
    ⟨p, hp, hx⟩,
    ⟨gap, hsome, hle⟩, start?_fineTrial, exists_int_fineTrial, solution?_fineTrial,
    hanswer ▸ hvisited, finegap, hfinesome, hfinele exists_int_fineTrial⟩

end Lesson

end LatticeLP

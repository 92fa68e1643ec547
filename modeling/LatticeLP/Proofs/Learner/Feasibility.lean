import LatticeLP.Proofs.Learner.Answer

/-!
# How far an answer is from the region

A move is checked before it is made, so a run visits feasible points only. Its answer is
not such a point but the rounded one, and rounding goes to the nearest, not into the
region: an answer may lie outside, and a run that could not have visited it reports it
all the same. `outward` is such a run. Its step of `1.25` leads onto the boundary
`x ≤ 1.25`, which keys of one digit take for `1.3`.

What rounding can do is limited. It does not leave the quadrant, and a constraint is
missed by no more than its form changes over half a unit of the last digit along both
axes (`solution_feasible`). Where the step is a whole number of units nothing is
rounded, and the answer is feasible.
-/

namespace LatticeLP

/-- **A constraint that holds at a point nearly holds nearby.** -/
theorem Constraint.Holds.neg_le_slack {c : Constraint Rat} {p q : Point Rat} {ε : Rat}
    (h : c.Holds p) (hx : |q.x - p.x| ≤ ε) (hy : |q.y - p.y| ≤ ε) :
    -(ε * (|c.form.a| + |c.form.b|)) ≤ c.slack q := by
  have hvalue := (le_abs_self _).trans (c.form.abs_value_sub_le hx hy)
  have hbound : c.form.value p ≤ c.bound := h
  show _ ≤ c.bound - c.form.value q
  linarith

namespace Lesson

variable {lesson : Lesson Rat} {l l₀ : Learner Rat} {p : Point Rat}

/-- The point of the key of a visited point is in the quadrant. -/
theorem point_keyOf_nonneg (valid : lesson.params.Valid) (h : lesson.Gridded l)
    (hp : l.Visited p) (hfeasible : lesson.program.Feasible p) :
    (0 : Rat) ≤ (lesson.keyOf p).point.x ∧ (0 : Rat) ≤ (lesson.keyOf p).point.y := by
  obtain ⟨hx, hy⟩ := h.inRange_of_visited valid hp
  exact Key.point_ofPoint_nonneg valid.precision_lt hx hy hfeasible.2.1 hfeasible.2.2.1

/-- **An answer is as near to feasible as rounding leaves it.** If the origin is
feasible, the learned point is in the quadrant; it misses a constraint by what the form
changes over half a unit of the last digit along both axes at most; and if the step is a
whole number of such units, it is feasible. -/
theorem solution_feasible (h : lesson.start? = .ok l₀)
    (horigin : lesson.program.Feasible .origin) {n : Nat} {a : Learned Rat}
    (ha : lesson.solution? (lesson.advances n l₀) = some a) :
    (0 ≤ a.point.x ∧ 0 ≤ a.point.y) ∧
    (∀ c ∈ lesson.program.constraints,
      -(1 / 2 * (10 ^ lesson.params.precision)⁻¹ * (|c.form.a| + |c.form.b|))
        ≤ c.slack a.point) ∧
    ((∃ m : Int, lesson.params.step * 10 ^ lesson.params.precision = m) →
      lesson.program.Feasible a.point) := by
  obtain ⟨valid, rfl⟩ := start?_eq_ok_iff.mp h
  have htraced := traced_advances lesson n
  have hgridded := gridded_advances valid n
  obtain ⟨p, hp, hpoint, _⟩ := exists_visited_of_solution? htraced ha
  have hfeasible := htraced.feasible_of_visited horigin hp
  obtain ⟨hx, hy, hexact⟩ := near_of_visited valid hgridded hp
  rw [hpoint]
  refine ⟨point_keyOf_nonneg valid hgridded hp hfeasible, fun c hc => ?_,
    fun hint => hexact hint ▸ hfeasible⟩
  exact (hfeasible.2.2.2 c hc).neg_le_slack hx hy

/-- The answer of the trial lesson, whose step of `1.25` is no whole number of digits,
and its answer with keys of two digits, where it is one. -/
theorem solution_feasible_trial :
    trial.start? = .ok trial.start ∧ trial.program.Feasible .origin ∧
    trial.solution? (trial.advances 10 trial.start)
      = some ⟨⟨13, 0, 1⟩, ⟨13 / 10, 0⟩, 99 / 4, 13⟩ ∧
    (∀ c ∈ trial.program.constraints, -(1 / 2 * (10 ^ trial.params.precision)⁻¹
      * (|c.form.a| + |c.form.b|)) ≤ c.slack ⟨13 / 10, 0⟩) ∧
    fineTrial.start? = .ok fineTrial.start ∧
    (∃ m : Int, fineTrial.params.step * 10 ^ fineTrial.params.precision = m) ∧
    fineTrial.solution? (fineTrial.advances 10 fineTrial.start)
      = some ⟨⟨125, 0, 2⟩, ⟨5 / 4, 0⟩, 99 / 4, 25 / 2⟩ ∧
    fineTrial.program.Feasible ⟨5 / 4, 0⟩ :=
  ⟨start?_trial, feasible_origin_trial, solution?_trial,
    (solution_feasible start?_trial feasible_origin_trial solution?_trial).2.1,
    start?_fineTrial, exists_int_fineTrial, solution?_fineTrial,
    (solution_feasible start?_fineTrial feasible_origin_trial solution?_fineTrial).2.2
      exists_int_fineTrial⟩

/-- One episode of three random steps of `1.25` in the strip `x ≤ 1.25`. -/
def outward : Lesson Rat where
  program := ⟨⟨1, 1⟩, ⟨[⟨⟨1, 0⟩, 5 / 4⟩]⟩⟩
  params := { Params.standard with step := 5 / 4, episodes := 1, steps := 3, seed := 5 }
  schedule := .constant

/-- **The answer of a run may lie outside the region.** -/
theorem not_feasible_outward : ∃ l₀ a, outward.start? = .ok l₀ ∧
    outward.program.Feasible .origin ∧ outward.solution? (outward.run l₀) = some a ∧
    ¬ outward.program.Feasible a.point := by
  refine ⟨outward.start, ⟨⟨13, 13, 1⟩, ⟨13 / 10, 13 / 10⟩, 27 / 8, 13 / 5⟩,
    start?_eq_ok_iff.mpr ⟨?_, rfl⟩, ?_, ?_, ?_⟩ <;> decide +kernel

end Lesson

end LatticeLP

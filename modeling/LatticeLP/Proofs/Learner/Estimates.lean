import Mathlib.Analysis.Convex.Basic
import LatticeLP.Proofs.Learner.Table
import LatticeLP.Proofs.Learner.Transitions
import LatticeLP.Proofs.Tableau.Verdict

/-!
# Bounds on estimates

An update replaces an estimate by an average of the estimate and of what the move led
to, its reward and the discounted estimate there. So estimates never leave a set that
contains zero, which is what unknown keys read, and that updates do not lead out of
(`Absorbs`), whichever keys the updates are for: the two keys of a move may be the same,
known or new, and a refused move changes nothing.

In exact arithmetic convex sets give such sets. What matters is not `q` but `(1 - γ) q`,
the constant reward that would be worth `q` if it were earned for ever: then adding a
reward to a discounted estimate is an average too,
`(1 - γ) (r + γ q) = (1 - γ) r + γ ((1 - γ) q)`, and a convex set with zero and the
values of all feasible points in it has room for all these averages
(`absorbs_of_convex`). An interval gives bounds from both sides; a half-line bounds the
estimates from above even where the objective has no lower bound.
-/

namespace LatticeLP

theorem Program.value_origin (p : Program Rat) : p.value .origin = 0 := by
  show p.objective.a * 0 + p.objective.b * 0 = 0
  ring

namespace Lesson

section Closure

variable {K : Type} [Scalar K] {lesson : Lesson K} {l l' : Learner K}
  {o : Option (Step K)} {S : Set K}

/-- A reward that a step can earn: none, or the objective at a feasible point. -/
def Earned (lesson : Lesson K) (r : K) : Prop :=
  r = 0 ∨ ∃ p, lesson.program.Feasible p ∧ r = lesson.program.value p

/-- An accepted move earns its reward. -/
theorem earned_reward {p : Point K} (hp : lesson.program.Feasible p) (step : Nat) :
    lesson.Earned (lesson.reward step p) := by
  unfold reward
  split
  · exact .inr ⟨p, hp, rfl⟩
  · exact .inl rfl

/-- **A set of scalars that updates do not lead out of.** -/
structure Absorbs (lesson : Lesson K) (S : Set K) : Prop where
  /-- What unknown keys read is in the set. -/
  zero : 0 ∈ S
  /-- With two estimates in the set, so is the update of the one by the other. -/
  update : ∀ q ∈ S, ∀ q' ∈ S, ∀ r, lesson.Earned r →
    (1 - lesson.params.alpha) * q
      + lesson.params.alpha * (r + lesson.params.gamma * q') ∈ S

/-- **Every transition keeps the readings of the table** within such a set. -/
theorem Transition.get_mem (ht : lesson.Transition l o l') (hS : lesson.Absorbs S)
    (h : ∀ k, l.table.get k ∈ S) (k : Key) : l'.table.get k ∈ S := by
  cases ht with
  | accepted _ hc =>
    rw [learn, Table.get_set]
    split
    · exact hS.update _ (h _) _ (h _) _ (earned_reward hc l.step)
    · exact h k
  | opening _ | rejected _ _ | closing _ | resting _ => exact h k

theorem Absorbs.get_advances (hS : lesson.Absorbs S) (n : Nat) :
    ∀ k, (lesson.advances n lesson.start).table.get k ∈ S :=
  advances_invariant (P := fun l => ∀ k, l.table.get k ∈ S)
    (fun _ _ _ h ht => ht.get_mem hS h) (fun k => Table.get_empty (K := K) k ▸ hS.zero) n

/-- **All estimates of a run are in such a set**, and so is the estimate of its answer. -/
theorem Absorbs.estimates (hS : lesson.Absorbs S) (n : Nat) :
    (∀ e ∈ (lesson.advances n lesson.start).table.entries, e.2 ∈ S) ∧
    ∀ a, lesson.solution? (lesson.advances n lesson.start) = some a → a.estimate ∈ S := by
  have hentries : ∀ e ∈ (lesson.advances n lesson.start).table.entries, e.2 ∈ S :=
    fun e he => by
      rw [(Table.mem_entries.mp he).2]
      exact hS.get_advances n e.1
  exact ⟨hentries, fun a ha => hentries _ (Learned.ofTable?_eq_some ha).1⟩

end Closure

/-! ## Exact bounds -/

variable {lesson : Lesson Rat} {l₀ : Learner Rat} {C : Set Rat}

/-- **Constant rewards in a convex set stay there.** -/
theorem absorbs_of_convex (valid : lesson.params.Valid) (hC : Convex Rat C)
    (hzero : 0 ∈ C)
    (hvalue : ∀ p, lesson.program.Feasible p → lesson.program.value p ∈ C) :
    lesson.Absorbs (Set.preimage ((1 - lesson.params.gamma) * ·) C) where
  zero := by
    rw [Set.mem_preimage, mul_zero]
    exact hzero
  update q hq q' hq' r hr := by
    obtain ⟨-, ⟨hα, hα1⟩, ⟨hγ, hγ1⟩, -⟩ := Params.valid_iff.mp valid
    set α := lesson.params.alpha
    set γ := lesson.params.gamma
    have hr : r ∈ C := by
      obtain rfl | ⟨p, hp, rfl⟩ := hr
      · exact hzero
      · exact hvalue p hp
    -- an average of the reward and the next estimate, and of that and the old estimate
    have htarget : (1 - γ) * r + γ * ((1 - γ) * q') ∈ C :=
      hC hr hq' (sub_nonneg.mpr hγ1.le) hγ (sub_add_cancel _ _)
    have hupdate : (1 - α) * ((1 - γ) * q) + α * ((1 - γ) * r + γ * ((1 - γ) * q')) ∈ C :=
      hC hq htarget (sub_nonneg.mpr hα1) hα.le (sub_add_cancel _ _)
    show (1 - γ) * ((1 - α) * q + α * (r + γ * q')) ∈ C
    rwa [show (1 - γ) * ((1 - α) * q + α * (r + γ * q'))
      = (1 - α) * ((1 - γ) * q) + α * ((1 - γ) * r + γ * ((1 - γ) * q')) from by ring]

/-- **Estimates are bounded by the objective.** If the objective stays between `lo ≤ 0`
and `hi ≥ 0` on the region, all estimates that a run ever holds, and the estimate of its
answer, stay between `lo / (1 - γ)` and `hi / (1 - γ)`. If the origin is feasible and
the program has an exact optimum, they do not exceed the optimum divided by `1 - γ`. -/
theorem estimates_bounded (h : lesson.start? = .ok l₀) (n : Nat) :
    (∀ lo hi, lo ≤ 0 → 0 ≤ hi →
      (∀ p, lesson.program.Feasible p →
        lo ≤ lesson.program.value p ∧ lesson.program.value p ≤ hi) →
      (∀ e ∈ (lesson.advances n l₀).table.entries,
        lo / (1 - lesson.params.gamma) ≤ e.2 ∧ e.2 ≤ hi / (1 - lesson.params.gamma)) ∧
      ∀ a, lesson.solution? (lesson.advances n l₀) = some a →
        lo / (1 - lesson.params.gamma) ≤ a.estimate ∧
          a.estimate ≤ hi / (1 - lesson.params.gamma)) ∧
    (lesson.program.Feasible .origin →
      ∀ budget opt, lesson.program.optimum? ⟨0, budget⟩ = .ok opt →
      (∀ e ∈ (lesson.advances n l₀).table.entries,
        e.2 ≤ opt.value / (1 - lesson.params.gamma)) ∧
      ∀ a, lesson.solution? (lesson.advances n l₀) = some a →
        a.estimate ≤ opt.value / (1 - lesson.params.gamma)) := by
  obtain ⟨valid, rfl⟩ := start?_eq_ok_iff.mp h
  have hpos : 0 < 1 - lesson.params.gamma :=
    sub_pos.mpr (Params.valid_iff.mp valid).2.2.1.2
  refine ⟨fun lo hi hlo hhi hvalue => ?_, fun horigin budget opt hopt => ?_⟩
  · have hestimates :=
      (absorbs_of_convex valid (convex_Icc lo hi) ⟨hlo, hhi⟩ hvalue).estimates n
    rw [Set.preimage_const_mul_Icc₀ lo hi hpos] at hestimates
    exact hestimates
  · have hmax := (lesson.program.isMaximiser_of_optimum? hopt).2.2
    have hnonneg : 0 ≤ opt.value := lesson.program.value_origin ▸ hmax .origin horigin
    have hestimates :=
      (absorbs_of_convex valid (convex_Iic opt.value) hnonneg hmax).estimates n
    rw [Set.preimage_const_mul_Iic₀ opt.value hpos] at hestimates
    exact hestimates

/-- The estimates of the trial lesson are not negative, and at most ten times the
optimum. -/
theorem estimates_bounded_trial :
    trial.start? = .ok trial.start ∧ trial.program.Feasible .origin ∧
    trial.program.optimum? ⟨0, 10⟩ = .ok ⟨⟨30 / 13, 42 / 13⟩, 636 / 13, 2⟩ ∧
    (∀ p, trial.program.Feasible p →
      0 ≤ trial.program.value p ∧ trial.program.value p ≤ 636 / 13) ∧
    (∃ a, trial.solution? (trial.advances 10 trial.start) = some a ∧
      0 / (1 - trial.params.gamma) ≤ a.estimate ∧
      a.estimate ≤ 636 / 13 / (1 - trial.params.gamma)) ∧
    ∀ e ∈ (trial.advances 10 trial.start).table.entries,
      e.2 ≤ 636 / 13 / (1 - trial.params.gamma) := by
  have hvalue : ∀ p, trial.program.Feasible p →
      0 ≤ trial.program.value p ∧ trial.program.value p ≤ 636 / 13 := fun p hp => by
    refine ⟨?_, (trial.program.isMaximiser_of_optimum? optimum?_trial).2.2 p hp⟩
    show (0 : Rat) ≤ 10.0 * p.x + 8.0 * p.y
    have hx := hp.2.1
    have hy := hp.2.2.1
    positivity
  obtain ⟨hbounds, hoptimum⟩ := estimates_bounded start?_trial 10
  exact ⟨start?_trial, feasible_origin_trial, optimum?_trial, hvalue,
    ⟨_, solution?_trial,
      (hbounds 0 (636 / 13) le_rfl (by norm_num) hvalue).2 _ solution?_trial⟩,
    (hoptimum feasible_origin_trial 10 _ optimum?_trial).1⟩

end Lesson

end LatticeLP

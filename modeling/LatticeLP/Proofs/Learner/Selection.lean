import LatticeLP.Learner.Sweep
import LatticeLP.Proofs.Scalar.FirstHighest

/-!
# The best of several runs

The choice among runs keeps the one of the highest estimate and passes over those that
learned nothing (`better_eq_keepHighest`). It ends with a run that **leads** the list:
no estimate is higher than its own, and no run listed before it has one as high
(`best?_eq_some_iff`), provided that the estimates are numbers. That no run is chosen
says nothing but that none learned anything, whatever the estimates are like
(`best?_eq_none_iff_forall`).
-/

namespace LatticeLP

variable {K : Type} [Scalar K]

/-- The estimate in the answer of a run, if it has one. -/
def Run.estimate? (run : Run K) : Option K :=
  run.solution?.map (·.estimate)

theorem Run.estimate?_eq_none_iff {run : Run K} :
    run.estimate? = none ↔ run.solution? = none :=
  Option.map_eq_none_iff

namespace Sweep

variable {runs : List (Run K)} {run : Run K} {i j : Nat} {x y : K}

/-- The estimate of the run at a position of a list. -/
def estimateAt (runs : List (Run K)) (i : Nat) : Option K :=
  runs[i]?.bind Run.estimate?

/-! ## Leading a list -/

/-- **The run at a position leads a list of runs**: it has an estimate, none is higher,
and none before it is as high. -/
structure Leads (runs : List (Run K)) (i : Nat) (x : K) : Prop where
  /-- The run has an estimate. -/
  estimateAt_eq : estimateAt runs i = some x
  /-- No estimate is higher. -/
  le : ∀ j y, estimateAt runs j = some y → y ≤ x
  /-- Those before it are lower. -/
  not_le : ∀ j < i, ∀ y, estimateAt runs j = some y → ¬ x ≤ y

/-- A run leads if its estimate is the first of the highest. -/
theorem leads_iff : Leads runs i x ↔ FirstHighest Run.estimate? runs i x :=
  ⟨fun h => ⟨h.estimateAt_eq, h.le, h.not_le⟩, fun h => ⟨h.readAt?_eq, h.le, h.not_le⟩⟩

/-! ## The choice -/

/-- The choice between the best run so far and the next one keeps the highest estimate. -/
theorem better_eq_keepHighest : better (K := K) = keepHighest Run.estimate? := by
  funext best run
  unfold better keepHighest Run.estimate?
  cases run.solution? with
  | none => rfl
  | some a => cases best <;> simp

/-- **No run is the best if and only if none has an answer.** -/
theorem best?_eq_none_iff_forall :
    best? runs = none ↔ ∀ run ∈ runs, run.solution? = none := by
  rw [best?, Option.map_eq_none_iff, better_eq_keepHighest, foldl_keepHighest_eq_none_iff]
  exact forall₂_congr fun run _ => Run.estimate?_eq_none_iff

/-- **A run is the best if and only if it leads.** -/
theorem best?_eq_some_iff (hcomparable : Comparable K)
    (hself : ∀ run ∈ runs, ∀ x, run.estimate? = some x → x ≤ x) :
    best? runs = some run ↔ ∃ i x, runs[i]? = some run ∧ Leads runs i x := by
  rw [best?, better_eq_keepHighest]
  constructor
  · intro h
    obtain ⟨⟨_, x⟩, hbest, rfl⟩ := Option.map_eq_some_iff.mp h
    obtain ⟨i, hi, hfirst⟩ := (foldl_keepHighest_eq_some_iff hcomparable hself).mp hbest
    exact ⟨i, x, hi, leads_iff.mpr hfirst⟩
  · rintro ⟨i, x, hi, hleads⟩
    rw [(foldl_keepHighest_eq_some_iff hcomparable hself).mpr
      ⟨i, hi, leads_iff.mp hleads⟩, Option.map_some]

end Sweep

end LatticeLP

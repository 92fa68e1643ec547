import LatticeLP.Proofs.Tableau.Budget
import LatticeLP.Proofs.Tableau.Reachable
import LatticeLP.Tableau.Optimum

/-!
# How many pivots are made

An optimization reports the pivots of its two ascents. Between them it evicts the
artificial variables that stayed basic at zero, and each of these costs a pivot that is
neither reported nor charged to the budget. This module counts them. In any arithmetic,
an eviction takes one artificial variable out of the basis and puts none into it
(`EvictionStep.basicArtificials_pivot`), so there are as many of these pivots as
artificial variables are gone in the end (`length_cells_optimize`) – at most one for
each row. In exact arithmetic all of them are gone, and the number of pivots is the one
that is reported and one more for each artificial variable in the basis at the end of
the first phase (`Fit.length_cells_optimize_exact`).

What is reported is therefore exact where there are no artificial variables, and where
none is left over. Two bounds that meet leave one over (`exists_unreported_pivot`).
-/

namespace LatticeLP

/-- The pivots by which an optimization evicts artificial variables. -/
def Optimization.evicted {K : Type} (m : Optimization K) : List Cell :=
  m.evictions.getD []

/-- The pivots that are made are those reported and the evictions. -/
theorem Optimization.length_cells {K : Type} (m : Optimization K) :
    m.cells.length = m.pivots + m.evicted.length := by
  rw [cells, List.length_append, List.length_append, pivots, evicted]
  omega

namespace Tableau

section Counting

variable {K : Type} [Scalar K] {t : Tableau K} {tolerance : K} {cell : Cell}
  {cells : List Cell}

/-- In how many rows an artificial variable is basic. -/
def basicArtificials {K : Type} (t : Tableau K) : Nat :=
  t.basics.countP (t.firstArtificial ≤ ·)

/-- **An eviction takes one artificial variable out of the basis.** -/
theorem EvictionStep.basicArtificials_pivot (h : EvictionStep tolerance t cell) :
    (t.pivot cell).basicArtificials + 1 = t.basicArtificials := by
  obtain ⟨row, hrow, hge, _⟩ := eviction?_eq_some_iff.mp h
  have hbasic := getElem?_basics hrow
  obtain ⟨hlt, hget⟩ := List.getElem?_eq_some_iff.mp hbasic
  have hpos : 0 < t.basicArtificials :=
    List.countP_pos_iff.mpr ⟨row.basic, List.mem_of_getElem? hbasic, decide_eq_true hge⟩
  rw [basicArtificials, basics_pivot, firstArtificial_pivot, List.countP_set hlt, hget,
    if_pos (decide_eq_true hge), if_neg (by simpa using h.column_lt), Nat.add_zero]
  exact Nat.sub_add_cancel hpos

/-- **A run of evictions takes out one for each pivot.** -/
theorem Follows.basicArtificials_pivots (h : t.Follows (EvictionStep tolerance) cells) :
    (t.pivots cells).basicArtificials + cells.length = t.basicArtificials := by
  induction cells generalizing t with
  | nil => rfl
  | cons cell cells ih =>
    have hrest := ih h.2
    have hstep := h.1.basicArtificials_pivot
    rw [pivots_cons, List.length_cons]
    omega

/-- The evictions of an optimization are a run of evictions from where its first phase
ends. -/
theorem follows_evicted (t : Tableau K) (o : Options K) :
    (t.pivots (t.optimize o).repair).Follows (EvictionStep o.tolerance)
      (t.optimize o).evicted :=
  optimize_cases
    (motive := fun m => (t.pivots m.repair).Follows (EvictionStep o.tolerance) m.evicted)
    t o (fun _ => trivial) (fun _ _ _ => trivial) (fun _ _ _ => trivial)
    (fun _ _ _ => (evict_spec _ o.tolerance).2)

/-- Without artificial variables nothing is evicted. -/
theorem evicted_of_artificials_eq_zero (h : t.artificials = 0) (o : Options K) :
    (t.optimize o).evicted = [] := by
  rw [optimize_of_artificials_eq_zero h]
  rfl

/-- **The pivots that are made and those that are reported**, in any arithmetic. An
optimization that reports `k` pivots was allowed as many, ends where its pivots lead,
and has made one more for each artificial variable that it took out of the basis after
the first phase. An optimum that is read off it reports the same `k`; and if there are
no artificial variables, or none is basic when the first phase ends, `k` pivots are all
there were. -/
theorem length_cells_optimize (t : Tableau K) (o : Options K) {k : Nat}
    (h : (t.optimize o).outcome = .ok k) :
    (t.optimize o).tableau = t.pivots (t.optimize o).cells ∧
    k ≤ o.budget ∧
    (∀ best, (t.optimize o).optimum? = .ok best → best.pivots = k) ∧
    (t.optimize o).cells.length = k + (t.optimize o).evicted.length ∧
    ((t.pivots (t.optimize o).repair).pivots (t.optimize o).evicted).basicArtificials
      + (t.optimize o).evicted.length
        = (t.pivots (t.optimize o).repair).basicArtificials ∧
    (t.artificials = 0 ∨ (t.pivots (t.optimize o).repair).basicArtificials = 0 →
      (t.optimize o).cells.length = k) := by
  obtain ⟨hverdict, rfl⟩ := Optimization.outcome_eq_ok_iff.mp h
  have hlength := (t.optimize o).length_cells
  have hevicted := (follows_evicted t o).basicArtificials_pivots
  refine ⟨tableau_optimize t o, pivots_optimize_le t o, fun best hbest => ?_,
    hlength, hevicted, fun hnone => ?_⟩
  · rw [Optimization.optimum?, hverdict] at hbest
    cases hbest
    rfl
  · rcases hnone with hzero | hzero
    · rw [hlength, evicted_of_artificials_eq_zero hzero, List.length_nil, Nat.add_zero]
    · rw [hzero] at hevicted
      rw [hlength, Nat.eq_zero_of_add_eq_zero_left hevicted, Nat.add_zero]

end Counting

/-- Two bounds that meet: the slack variable of one of them leaves in the only pivot of
the first phase, and the artificial variable of the other stays. -/
def meetingBounds : Program Rat :=
  ⟨⟨-1, 0⟩, ⟨[⟨⟨1, 0⟩, 1⟩, ⟨⟨-1, 0⟩, -1⟩]⟩⟩

/-- The artificial variable that is left over costs the second pivot. -/
theorem length_cells_optimize_meetingBounds :
    (meetingBounds.tableau.optimize .standard).outcome = .ok 1 ∧
      (meetingBounds.tableau.optimize .standard).cells.length
        = 1 + (meetingBounds.tableau.optimize .standard).evicted.length ∧
      (meetingBounds.tableau.optimize .standard).evicted = [⟨1, 2⟩] := by
  have hok : (meetingBounds.tableau.optimize .standard).outcome = .ok 1 := by
    decide +kernel
  exact ⟨hok,
    (length_cells_optimize meetingBounds.tableau .standard hok).2.2.2.1, by
    decide +kernel⟩

/-- **A pivot may be made that is neither reported nor paid for**: an optimum that is
said to have taken one pivot took two, and a budget of one sufficed for them. -/
theorem exists_unreported_pivot :
    meetingBounds.optimum? .standard = .ok ⟨⟨1, 0⟩, -1, 1⟩ ∧
      (meetingBounds.tableau.optimize .standard).cells = [⟨0, 0⟩, ⟨1, 2⟩] ∧
      (meetingBounds.tableau.optimize .standard).tableau
        = meetingBounds.tableau.pivots [⟨0, 0⟩, ⟨1, 2⟩] ∧
      (meetingBounds.tableau.optimize ⟨1e-9, 1⟩).outcome = .ok 1 ∧
      (meetingBounds.tableau.optimize ⟨1e-9, 1⟩).cells = [⟨0, 0⟩, ⟨1, 2⟩] := by
  refine ⟨?_, ?_, ?_, ?_, ?_⟩ <;> decide +kernel

/-! ## Exact arithmetic -/

/-- No artificial variable is basic in a ready tableau. -/
theorem Ready.basicArtificials_eq_zero {t : Tableau Rat} (h : t.Ready) :
    t.basicArtificials = 0 :=
  List.countP_eq_zero.mpr fun b hb => by simpa using h.clear b hb

/-- **In exact arithmetic each artificial variable that is basic when the first phase
ends costs one pivot that is not reported.** -/
theorem Fit.length_cells_optimize_exact {t : Tableau Rat} (ht : t.Fit) {budget k : Nat}
    (h : (t.optimize ⟨0, budget⟩).outcome = .ok k) :
    (t.optimize ⟨0, budget⟩).cells.length
      = k + (t.pivots (t.optimize ⟨0, budget⟩).repair).basicArtificials := by
  obtain ⟨hverdict, rfl⟩ := Optimization.outcome_eq_ok_iff.mp h
  have hclear : ((t.pivots (t.optimize ⟨0, budget⟩).repair).pivots
      (t.optimize ⟨0, budget⟩).evicted).basicArtificials = 0 := by
    revert hverdict
    refine optimize_cases (motive := fun m => m.verdict = .ok () →
        ((t.pivots m.repair).pivots m.evicted).basicArtificials = 0) t ⟨0, budget⟩
      (fun hzero _ => ?_) (fun _ _ _ h => nomatch h) (fun _ _ _ h => nomatch h)
      (fun _ _ hshort _ => ?_)
    · exact (ht.toCanonical.ready ht.nonneg hzero).basicArtificials_eq_zero
    · have hready := (ready_repaired ht.toCanonical ht.nonneg ht.free hshort).1
      rw [repaired, (evict_spec _ _).1] at hready
      exact hready.basicArtificials_eq_zero
  have hevicted := (follows_evicted t ⟨0, budget⟩).basicArtificials_pivots
  rw [hclear, Nat.zero_add] at hevicted
  rw [Optimization.length_cells, hevicted]

end Tableau

end LatticeLP

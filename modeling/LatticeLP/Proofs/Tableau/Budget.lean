import LatticeLP.Proofs.Tableau.Runs

/-!
# What a budget decides

Two phases share one budget: the second gets what the first has left over. This module
proves that the budget decides whether an optimization ends and nothing else. Up to some
number of pivots it is exhausted, and from there on it is the same optimization whatever
the budget – the same pivots, the same tableau, the same verdict (`optimize_of_ended`).
For one that finds an optimum that number is the number of pivots it reports
(`optimize_of_optimum`, `optimize_of_lt_pivots`): the budget is asked for a pivot only
once a column has been found to enter, so one that is spent exactly suffices, also where
the first phase spends all of it.

None of this looks at a number. It holds in any arithmetic, and of tableaux of any shape.
-/

namespace LatticeLP

/-- **How an optimization with one verdict is counted**: a success is reported with its
pivots. -/
theorem Optimization.outcome_eq_ok_iff {K : Type} {m : Optimization K} {k : Nat} :
    m.outcome = .ok k ↔ m.verdict = .ok () ∧ m.pivots = k := by
  rw [outcome]
  cases m.verdict with
  | error e => simp [Except.map]
  | ok _ => simp [Except.map]

/-- A failure is reported as it is. -/
theorem Optimization.outcome_eq_error_iff {K : Type} {m : Optimization K}
    {e : SolveError K} :
    m.outcome = .error e ↔ m.verdict = .error e := by
  rw [outcome]
  cases m.verdict with
  | error e => simp [Except.map]
  | ok _ => simp [Except.map]

/-- The verdict on an ascent mentions its budget only if it was exhausted. -/
theorem Stop.verdict_of_ended {K : Type} {stop : Stop} (h : stop ≠ .exhausted)
    (budget b : Nat) :
    (stop.verdict budget : Except (SolveError K) Unit) = stop.verdict b := by
  cases stop with
  | optimal => rfl
  | unbounded column => rfl
  | exhausted => exact absurd rfl h

/-- An ascent whose verdict is not that of an exhausted one has ended. -/
theorem Stop.ne_exhausted_of_verdict {K : Type} {stop : Stop} {budget : Nat}
    (h : ∀ b,
      (stop.verdict budget : Except (SolveError K) Unit) ≠ .error (.exhausted b)) :
    stop ≠ .exhausted := by
  rintro rfl
  exact h budget rfl

/-- An ascent that is judged a success is one. -/
theorem Stop.eq_optimal_of_verdict {K : Type} {stop : Stop} {budget : Nat}
    (h : (stop.verdict budget : Except (SolveError K) Unit) = .ok ()) :
    stop = .optimal := by
  cases stop with
  | optimal => rfl
  | unbounded column => cases h
  | exhausted => cases h

namespace Tableau

variable {K : Type} [Scalar K] {t : Tableau K} {tolerance : K} {budget b : Nat}

/-- **No more pivots are reported than the budget allows**, however an optimization
ends. -/
theorem pivots_optimize_le (t : Tableau K) (o : Options K) :
    (t.optimize o).pivots ≤ o.budget := by
  have hrepair : (t.repairPhase o).cells.length ≤ o.budget :=
    (isAscent_repairPhase t o).length_le
  refine optimize_cases t o (fun _ => ?_) (fun _ _ _ => hrepair) (fun _ _ _ => hrepair)
    (fun _ _ _ => ?_)
  · rw [Optimization.pivots,
      show (t.maximize o.tolerance o.budget [] none).repair = [] from rfl,
      List.length_nil, Nat.zero_add]
    exact (isAscent_ascend t.firstArtificial o.tolerance o.budget t).length_le
  · have hascent := (isAscent_ascend (t.repaired o).1.firstArtificial o.tolerance
      (o.budget - (t.repairPhase o).cells.length) (t.repaired o).1).length_le
    show (t.repairPhase o).cells.length + _ ≤ o.budget
    exact Nat.add_le_of_le_sub' hrepair hascent

/-! ## The second phase -/

section Maximize

variable {repair : List Cell} {evictions : Option (List Cell)}

theorem maximize_add_of_ended
    (h : ∀ b,
      (t.maximize tolerance budget repair evictions).verdict ≠ .error (.exhausted b))
    (more : Nat) :
    t.maximize tolerance (budget + more) repair evictions
      = t.maximize tolerance budget repair evictions := by
  have hended := Stop.ne_exhausted_of_verdict h
  simp only [maximize, ascend_add_of_ended hended, Stop.verdict_of_ended hended _ budget]

theorem maximize_of_optimum
    (h : (t.maximize tolerance budget repair evictions).verdict = .ok ())
    (hb : (t.maximize tolerance budget repair evictions).ascent.length ≤ b) :
    t.maximize tolerance b repair evictions
      = t.maximize tolerance budget repair evictions := by
  have hoptimal := Stop.eq_optimal_of_verdict h
  simp only [maximize, ascend_of_optimal hoptimal hb, hoptimal, Stop.verdict]

theorem verdict_maximize_of_lt
    (hb : b < (t.maximize tolerance budget repair evictions).ascent.length) :
    (t.maximize tolerance b repair evictions).verdict = .error (.exhausted b) := by
  show (t.ascend t.firstArtificial tolerance b).stop.verdict b = _
  rw [stop_ascend_of_lt hb]
  rfl

end Maximize

/-! ## Both phases -/

/-- Where the first phase leads depends on the budget through the first phase alone. -/
theorem repaired_congr
    (h : t.repairPhase ⟨tolerance, b⟩ = t.repairPhase ⟨tolerance, budget⟩) :
    t.repaired ⟨tolerance, b⟩ = t.repaired ⟨tolerance, budget⟩ := by
  rw [repaired, h, repaired]

/-- **An optimization that is not exhausted is the same with a larger budget.** -/
theorem optimize_of_ended
    (h : ∀ b, (t.optimize ⟨tolerance, budget⟩).verdict ≠ .error (.exhausted b))
    (more : Nat) :
    t.optimize ⟨tolerance, budget + more⟩ = t.optimize ⟨tolerance, budget⟩ := by
  revert h
  refine optimize_cases (motive := fun m => (∀ b, m.verdict ≠ .error (.exhausted b)) →
      t.optimize ⟨tolerance, budget + more⟩ = m) t ⟨tolerance, budget⟩
    (fun hzero h => ?_) (fun hsome e he h => ?_) (fun hsome hstop hshort _ => ?_)
    (fun hsome hstop hshort h => ?_)
  · rw [optimize_of_artificials_eq_zero hzero]
    exact maximize_add_of_ended h more
  · have hended : (t.repairPhase ⟨tolerance, budget⟩).stop ≠ .exhausted :=
      Stop.ne_exhausted_of_verdict fun b hb => h b (he ▸ hb)
    have hphase := repairPhase_add_of_ended hended more
    rw [optimize_of_stopped (e := e) hsome, hphase]
    rw [hphase, Stop.verdict_of_ended hended _ budget]
    exact he
  · have hphase := repairPhase_add_of_ended (by rw [hstop]; simp) more
    rw [optimize_of_shortfall hsome (hphase ▸ hstop) (hphase ▸ hshort), hphase]
  · have hphase := repairPhase_add_of_ended (by rw [hstop]; simp) more
    have hle := (isAscent_repairPhase t ⟨tolerance, budget⟩).length_le
    rw [optimize_of_repaired hsome (hphase ▸ hstop) (hphase ▸ hshort),
      repaired_congr hphase, hphase]
    -- what the first phase left over grows by as much as the budget
    rw [Nat.sub_add_comm hle]
    exact maximize_add_of_ended h more

/-- **An optimization that finds an optimum is the same with any budget for its
pivots.** -/
theorem optimize_of_optimum (h : (t.optimize ⟨tolerance, budget⟩).verdict = .ok ())
    (hb : (t.optimize ⟨tolerance, budget⟩).pivots ≤ b) :
    t.optimize ⟨tolerance, b⟩ = t.optimize ⟨tolerance, budget⟩ := by
  revert h hb
  refine optimize_cases (motive := fun m => m.verdict = .ok () → m.pivots ≤ b →
      t.optimize ⟨tolerance, b⟩ = m) t ⟨tolerance, budget⟩
    (fun hzero h hb => ?_) (fun _ _ _ h => nomatch h) (fun _ _ _ h => nomatch h)
    (fun hsome hstop hshort h hb => ?_)
  · rw [optimize_of_artificials_eq_zero hzero]
    exact maximize_of_optimum h (Nat.le_of_add_left_le hb)
  · have hphase : t.repairPhase ⟨tolerance, b⟩ = t.repairPhase ⟨tolerance, budget⟩ :=
      ascend_of_optimal hstop (Nat.le_of_add_right_le hb)
    rw [optimize_of_repaired hsome (hphase ▸ hstop) (hphase ▸ hshort),
      repaired_congr hphase, hphase]
    exact maximize_of_optimum h (Nat.le_sub_of_add_le' hb)

/-- **With a budget for fewer pivots than it makes an optimization is exhausted**, in
the phase in which it would make the next one. -/
theorem optimize_of_lt_pivots (hb : b < (t.optimize ⟨tolerance, budget⟩).pivots) :
    ∃ left ≤ b, (t.optimize ⟨tolerance, b⟩).verdict = .error (.exhausted left) := by
  -- a first phase that is cut short is the end of the optimization
  have hfirst : t.artificials ≠ 0 → b < (t.repairPhase ⟨tolerance, budget⟩).cells.length →
      ∃ left ≤ b, (t.optimize ⟨tolerance, b⟩).verdict = .error (.exhausted left) := by
    intro hsome hlt
    have hstop : (t.repairPhase ⟨tolerance, b⟩).stop = .exhausted := stop_ascend_of_lt hlt
    exact ⟨b, le_rfl,
      by rw [optimize_of_stopped hsome (e := .exhausted b) (by rw [hstop]; rfl)]⟩
  revert hb
  refine optimize_cases (motive := fun m => b < m.pivots →
      ∃ left ≤ b, (t.optimize ⟨tolerance, b⟩).verdict = .error (.exhausted left))
    t ⟨tolerance, budget⟩
    (fun hzero hb => ?_) (fun hsome _ _ hb => hfirst hsome hb)
    (fun hsome _ _ hb => hfirst hsome hb) (fun hsome hstop hshort hb => ?_)
  · refine ⟨b, le_rfl, ?_⟩
    have hlt : b < (t.maximize tolerance budget [] none).ascent.length := by
      simpa [Optimization.pivots, maximize] using hb
    rw [optimize_of_artificials_eq_zero hzero]
    exact verdict_maximize_of_lt hlt
  · rcases lt_or_ge b (t.repairPhase ⟨tolerance, budget⟩).cells.length with hlt | hge
    · exact hfirst hsome hlt
    · have hphase : t.repairPhase ⟨tolerance, b⟩ = t.repairPhase ⟨tolerance, budget⟩ :=
        ascend_of_optimal hstop hge
      refine ⟨b - (t.repairPhase ⟨tolerance, budget⟩).cells.length, Nat.sub_le _ _, ?_⟩
      rw [optimize_of_repaired hsome (hphase ▸ hstop) (hphase ▸ hshort),
        repaired_congr hphase, hphase]
      exact verdict_maximize_of_lt (Nat.sub_lt_left_of_lt_add hge hb)

/-- **The budget of an optimization is a threshold**, in any arithmetic. One that ends
in another way than by running out of its budget ends with every larger budget in that
way and at the same tableau. One that finds an optimum with `k` pivots does so with
every budget from `k` on, and runs out of every smaller one. -/
theorem budget_threshold (t : Tableau K) (tolerance : K) (budget : Nat) :
    ((∀ b, (t.optimize ⟨tolerance, budget⟩).outcome ≠ .error (.exhausted b)) →
      ∀ larger ≥ budget,
      (t.optimize ⟨tolerance, larger⟩).outcome
        = (t.optimize ⟨tolerance, budget⟩).outcome ∧
        (t.optimize ⟨tolerance, larger⟩).tableau
          = (t.optimize ⟨tolerance, budget⟩).tableau) ∧
    ∀ k, (t.optimize ⟨tolerance, budget⟩).outcome = .ok k →
      k ≤ budget ∧
      (∀ b ≥ k, (t.optimize ⟨tolerance, b⟩).outcome = .ok k ∧
        (t.optimize ⟨tolerance, b⟩).tableau = (t.optimize ⟨tolerance, budget⟩).tableau) ∧
      ∀ b < k, ∃ left ≤ b,
        (t.optimize ⟨tolerance, b⟩).outcome = .error (.exhausted left) := by
  refine ⟨fun h larger hle => ?_, fun k hk => ?_⟩
  · obtain ⟨more, rfl⟩ := Nat.exists_eq_add_of_le hle
    have hended : ∀ b, (t.optimize ⟨tolerance, budget⟩).verdict ≠ .error (.exhausted b) :=
      fun b hb => h b (Optimization.outcome_eq_error_iff.mpr hb)
    rw [optimize_of_ended hended more]
    exact ⟨rfl, rfl⟩
  · obtain ⟨hverdict, rfl⟩ := Optimization.outcome_eq_ok_iff.mp hk
    refine ⟨pivots_optimize_le t ⟨tolerance, budget⟩, fun b hb => ?_, fun b hb => ?_⟩
    · rw [optimize_of_optimum hverdict hb]
      exact ⟨hk, rfl⟩
    · obtain ⟨left, hleft, hexhausted⟩ := optimize_of_lt_pivots hb
      exact ⟨left, hleft, Optimization.outcome_eq_error_iff.mpr hexhausted⟩

/-- A program that takes one pivot in its first phase and two in its second, with every
budget up to three. -/
theorem budget_threshold_shared :
    let t : Tableau Rat := start [1, 1] [⟨[1, 2], 4⟩, ⟨[-1, 0], -1⟩]
    (t.optimize ⟨0, 7⟩).outcome = .ok 3 ∧ (t.optimize ⟨0, 3⟩).outcome = .ok 3 ∧
      (t.optimize ⟨0, 3⟩).tableau = (t.optimize ⟨0, 7⟩).tableau ∧
      (∀ b < 3, ∃ left ≤ b, (t.optimize ⟨0, b⟩).outcome = .error (.exhausted left)) ∧
      (t.optimize ⟨0, 9⟩).outcome = (t.optimize ⟨0, 7⟩).outcome := by
  intro t
  have hok : (t.optimize ⟨0, 7⟩).outcome = .ok 3 := by decide +kernel
  obtain ⟨hlarger, hoptimum⟩ := budget_threshold t 0 7
  obtain ⟨_, hsame, hexhausted⟩ := hoptimum 3 hok
  exact ⟨hok, (hsame 3 le_rfl).1, (hsame 3 le_rfl).2, hexhausted,
    (hlarger (fun b hb => by rw [hok] at hb; cases hb) 9 (by decide)).1⟩

end Tableau

end LatticeLP

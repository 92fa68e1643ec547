import LatticeLP.Proofs.Tableau.RatioTest

/-!
# How tight a leaving row is

With a tolerance the ratio test should find a row whose ratio is within the tolerance of
the smallest, and among those the one whose basic variable comes first: a **nearly
tightest** limit. It finds one wherever the ratios fall into classes – there is no
near-tie between two of them that a third one bridges.

Otherwise it may miss, in either way. Each row is compared with the one chosen so far
and not with the smallest ratio, so a chain of near-ties leads away from it, by a
tolerance for each row (`exists_leaving?_adrift`); and a smaller ratio that ends such a
chain may take the place of one with which it ties. What holds of every tableau is the
bound for a chain through all rows that limit the column (`leaving?_nearlyTightest`).
-/

namespace LatticeLP

namespace Tableau

variable {t : Tableau Rat} {tolerance : Rat} {column i : Nat}

/-- **A limit is nearly tightest**: its ratio is at most the tolerance above every other
one, hence above the smallest, and among the limits of which that is true its basic
variable comes first. -/
structure NearlyTightest (t : Tableau Rat) (column : Nat) (tolerance : Rat)
    (l : Limit Rat) : Prop where
  /-- It is a limit of the column. -/
  mem : l ∈ t.limits column tolerance
  /-- Its ratio is within the tolerance of the smallest. -/
  ratio_le : ∀ c ∈ t.limits column tolerance, l.ratio ≤ c.ratio + tolerance
  /-- No basic variable of such a limit comes before its own. -/
  basic_le : ∀ c ∈ t.limits column tolerance,
    (∀ d ∈ t.limits column tolerance, c.ratio ≤ d.ratio + tolerance) → l.basic ≤ c.basic

/-- A row has one limit at most. -/
theorem eq_of_mem_limits {l l' : Limit Rat} (h : l ∈ t.limits column tolerance)
    (h' : l' ∈ t.limits column tolerance) (hrow : l.row = l'.row) : l = l' := by
  obtain ⟨r, hr, _, heq⟩ := mem_limits_iff.mp h
  obtain ⟨r', hr', _, heq'⟩ := mem_limits_iff.mp h'
  rw [hrow, hr', Option.some.injEq] at hr
  rw [heq, heq', hrow, hr]

/-- What outranks all limits is nearly tightest. -/
theorem nearlyTightest_of_outranks (h0 : 0 ≤ tolerance) {l : Limit Rat}
    (hl : l ∈ t.limits column tolerance)
    (h : ∀ c ∈ t.limits column tolerance, l.Outranks tolerance c) :
    t.NearlyTightest column tolerance l where
  mem := hl
  ratio_le c hc := (h c hc).ratio_le h0
  basic_le c hc hnear := by
    rcases h c hc with hlt | ⟨_, hbasic⟩
    · exact absurd (hnear l hl) (not_le.mpr hlt)
    · exact hbasic

/-- **A leaving row is as tight as the chain of near-ties that led to it allows.** Its
ratio exceeds the smallest by at most one tolerance for each other limit, and if the
limits fall into classes it is nearly tightest. -/
theorem leaving?_nearlyTightest (h0 : 0 ≤ tolerance)
    (h : t.leaving? column tolerance = some i) :
    ∃ l ∈ t.limits column tolerance, l.row = i ∧
      (∀ c ∈ t.limits column tolerance,
        l.ratio ≤ c.ratio + ((t.limits column tolerance).length - 1) * tolerance) ∧
      (Limit.Classed tolerance (t.limits column tolerance) →
        t.NearlyTightest column tolerance l) := by
  obtain ⟨l, hl, rfl, hfold⟩ := exists_limit_of_leaving? h
  obtain ⟨a, limits, hlimits⟩ := List.exists_cons_of_ne_nil (List.ne_nil_of_mem hl)
  rw [hlimits] at hfold
  refine ⟨l, hl, rfl, fun c hc => ?_,
    fun hclassed => nearlyTightest_of_outranks h0 hl fun c hc => ?_⟩
  · have hle := Limit.ratio_le_of_foldl_choose h0 hfold c (hlimits ▸ hc)
    rwa [hlimits, List.length_cons, Nat.cast_succ, add_sub_cancel_right]
  · exact Limit.outranks_of_foldl_choose h0 (hlimits ▸ hclassed) hfold c (hlimits ▸ hc)

/-- Three rows that limit the last variable by 4, 9/2 and 5, in an order in which their
basic variables come earlier and earlier once the first two variables have entered. -/
def chained : Tableau Rat :=
  start [1, 1, 10] [⟨[0, 0, 1], 4⟩, ⟨[0, 1, 1], 9 / 2⟩, ⟨[1, 0, 1], 5⟩]

/-- The row that leaves is two tolerances above the smallest ratio, as far as three
limits allow. -/
theorem leaving?_nearlyTightest_chained :
    (chained.pivots [⟨2, 0⟩, ⟨1, 1⟩]).leaving? 2 (1 / 2) = some 2 ∧
    ∃ l ∈ (chained.pivots [⟨2, 0⟩, ⟨1, 1⟩]).limits 2 (1 / 2), l = ⟨2, 0, 5⟩ ∧
      ∀ c ∈ (chained.pivots [⟨2, 0⟩, ⟨1, 1⟩]).limits 2 (1 / 2),
        l.ratio ≤ c.ratio + (3 - 1) * (1 / 2) := by
  have hleaving : (chained.pivots [⟨2, 0⟩, ⟨1, 1⟩]).leaving? 2 (1 / 2) = some 2 := by
    decide +kernel
  have hmem : ⟨2, 0, 5⟩ ∈ (chained.pivots [⟨2, 0⟩, ⟨1, 1⟩]).limits 2 (1 / 2) :=
    List.mem_of_getElem? (i := 2) (by decide +kernel)
  obtain ⟨l, hl, hrow, hratio, _⟩ := leaving?_nearlyTightest (by norm_num) hleaving
  rw [show ((chained.pivots [⟨2, 0⟩, ⟨1, 1⟩]).limits 2 (1 / 2)).length
    = 3 by decide +kernel] at hratio
  exact ⟨hleaving, l, hl, eq_of_mem_limits hl hmem hrow, hratio⟩

/-- Two rows that limit the second variable by 4 and 15/4, and between them one that
limits it by 9/2 and whose basic variable comes first once the first variable has
entered. -/
def bridged : Tableau Rat :=
  start [1, 10] [⟨[0, 1], 4⟩, ⟨[1, 1], 9 / 2⟩, ⟨[0, 1], 15 / 4⟩]

/-- **A leaving row need not be nearly tightest.** With a tolerance of 1/2, a program
reports an optimum in three pivots of which the last is at a ratio of 5 where the
smallest is 4, and a variable of its solution is negative; and another program makes a
pivot at a ratio of 15/4 though a row with a ratio of 4 comes before it. -/
theorem exists_leaving?_adrift :
    (ofDense? [1, 1, 10] [[0, 0, 1], [0, 1, 1], [1, 0, 1]] [4, 9 / 2, 5] = .ok chained ∧
      (chained.optimize ⟨1 / 2, 3⟩).cells = [⟨2, 0⟩, ⟨1, 1⟩, ⟨2, 2⟩] ∧
      (chained.optimize ⟨1 / 2, 3⟩).outcome = .ok 3 ∧
      (chained.optimize ⟨1 / 2, 3⟩).tableau.solution = [0, -(1 / 2), 5] ∧
      (chained.pivots [⟨2, 0⟩, ⟨1, 1⟩]).leaving? 2 (1 / 2) = some 2 ∧
      ∀ l, l.row = 2 → ¬ (chained.pivots [⟨2, 0⟩, ⟨1, 1⟩]).NearlyTightest 2 (1 / 2) l) ∧
    (ofDense? [1, 10] [[0, 1], [1, 1], [0, 1]] [4, 9 / 2, 15 / 4] = .ok bridged ∧
      (bridged.optimize ⟨1 / 2, 2⟩).cells = [⟨1, 0⟩, ⟨2, 1⟩] ∧
      (bridged.pivots [⟨1, 0⟩]).leaving? 1 (1 / 2) = some 2 ∧
      ∀ l, l.row = 2 → ¬ (bridged.pivots [⟨1, 0⟩]).NearlyTightest 1 (1 / 2) l) := by
  refine ⟨⟨rfl, by
    decide +kernel, by decide +kernel, by decide +kernel, by decide +kernel,
    fun l hrow h => ?_⟩, rfl, by decide +kernel, by decide +kernel, fun l hrow h => ?_⟩
  · have hlast : ⟨2, 0, 5⟩ ∈ (chained.pivots [⟨2, 0⟩, ⟨1, 1⟩]).limits 2 (1 / 2) :=
      List.mem_of_getElem? (i := 2) (by decide +kernel)
    have hfirst : ⟨0, 3, 4⟩ ∈ (chained.pivots [⟨2, 0⟩, ⟨1, 1⟩]).limits 2 (1 / 2) :=
      List.mem_of_getElem? (i := 0) (by decide +kernel)
    obtain rfl : l = ⟨2, 0, 5⟩ := eq_of_mem_limits h.mem hlast hrow
    -- the ratio of 5 is not within 1/2 of the ratio of 4
    exact absurd (h.ratio_le _ hfirst) (by decide +kernel)
  · have hlast : ⟨2, 4, 15 / 4⟩ ∈ (bridged.pivots [⟨1, 0⟩]).limits 1 (1 / 2) :=
      List.mem_of_getElem? (i := 2) (by decide +kernel)
    have hfirst : ⟨0, 2, 4⟩ ∈ (bridged.pivots [⟨1, 0⟩]).limits 1 (1 / 2) :=
      List.mem_of_getElem? (i := 0) (by decide +kernel)
    obtain rfl : l = ⟨2, 4, 15 / 4⟩ := eq_of_mem_limits h.mem hlast hrow
    -- the ratio of 4 is within 1/2 of all others, and its basic variable comes before
    exact absurd (h.basic_le _ hfirst (by decide +kernel)) (by decide)

end Tableau

end LatticeLP

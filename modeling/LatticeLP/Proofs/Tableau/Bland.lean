import LatticeLP.Proofs.Tableau.Reachable

/-!
# Bland's rule does not cycle

A degenerate pivot leaves the basic solution where it is, and nothing in the value of
the objective stops a run of such pivots from coming back to a basis it has left.
Bland's rule stops it (`Follows.neverReturns`), and since there are only so many bases,
an ascent ends within as many pivots.

The argument is about a run that does come back (`Cycle`). The value never falls, so it
is the same all along the cycle, every ratio in it is zero, and all its tableaux have
one basic solution (`Cycle.valueAt_stage`). Among the variables that enter take the last
one, `q`. It also leaves, at a tableau `D` where some `s` before `q` enters. Move the
basic solution of `D` along the edge of `s` and read off the change of the objective in
the prices of the tableau `E` at which `q` enters: it is the price of `s` at `D`, which
is negative, and yet no variable contributes a negative part (`clash`). The prices at
`E` of variables before `q` are not negative, as `q` was the first to enter; and such a
variable does not shrink along the edge if it could contribute at all, or else it would
have left `D` instead of `q`. Both tie-breaks are needed, each for one of these.
-/

namespace LatticeLP

namespace Tableau

variable {t : Tableau Rat} {columns : Nat} {cells : List Cell}

/-! ## Bases -/

/-- **The basis**: the set of basic variables. -/
def basis {K : Type} (t : Tableau K) : Finset Nat :=
  t.basics.toFinset

theorem mem_basis {K : Type} {t : Tableau K} {j : Nat} : j ∈ t.basis ↔ j ∈ t.basics :=
  List.mem_toFinset

theorem basis_congr {K : Type} {t t' : Tableau K} (h : t.rows = t'.rows) :
    t.basis = t'.basis := by
  rw [basis, basis, basics, basics, h]

/-- **There are as many basic variables as rows.** -/
theorem Canonical.card_basis (ht : t.Canonical) : t.basis.card = t.height := by
  rw [basis, List.toFinset_card_of_nodup ht.nodup_basics, length_basics]

theorem Canonical.basis_subset (ht : t.Canonical) : t.basis ⊆ Finset.range t.width := by
  intro j hj
  obtain ⟨row, hrow, rfl⟩ := List.mem_map.mp (mem_basis.mp hj)
  exact Finset.mem_range.mpr (ht.basic_lt row hrow)

/-! ## Closed chains -/

/-- **Around a closed chain nothing moves.** -/
theorem le_of_closed {α : Type} [Preorder α] {f : Nat → α} {n : Nat}
    (step : ∀ i < n, f i ≤ f (i + 1)) (closed : f n ≤ f 0) {i j : Nat} (hi : i ≤ n)
    (hj : j ≤ n) :
    f i ≤ f j := by
  have up : ∀ i j, i ≤ j → j ≤ n → f i ≤ f j := by
    intro i j hij
    induction j, hij using Nat.le_induction with
    | base => exact fun _ => le_rfl
    | succ j _ ih => exact fun h => (ih (by omega)).trans (step j (by omega))
  exact (up i n hi le_rfl).trans (closed.trans (up 0 j (Nat.zero_le j) hj))

/-- The tableau after the first `i` pivots of a run. -/
def stage {K : Type} [Scalar K] (t : Tableau K) (cells : List Cell) (i : Nat) :
    Tableau K :=
  t.pivots (cells.take i)

theorem stage_succ {K : Type} [Scalar K] (t : Tableau K) {i : Nat}
    (hi : i < cells.length) :
    t.stage cells (i + 1) = (t.stage cells i).pivot cells[i] :=
  pivots_take_succ t hi

/-! ## Cycles -/

/-- **A cycle**: a run of Bland's rule that ends at the basis it starts from. -/
structure Cycle (columns : Nat) (t : Tableau Rat) (cells : List Cell) : Prop where
  /-- It starts in canonical form. -/
  canonical : t.Canonical
  /-- It starts without a negative right-hand side. -/
  nonneg : t.Nonneg
  /-- It follows Bland's rule. -/
  follows : t.Follows (BlandStep columns 0) cells
  /-- It ends at its first basis. -/
  closed : (t.pivots cells).basis = t.basis

namespace Cycle

variable (hc : Cycle columns t cells)

include hc

theorem canonical_stage (i : Nat) :
    (t.stage cells i).Canonical ∧ t.Equivalent (t.stage cells i) :=
  ((hc.follows.take i).pivotal_of_bland le_rfl).canonical hc.canonical

theorem nonneg_stage (i : Nat) : (t.stage cells i).Nonneg :=
  (hc.follows.take i).ratio_of_bland.nonneg hc.canonical hc.nonneg

theorem step {i : Nat} (hi : i < cells.length) :
    BlandStep columns 0 (t.stage cells i) cells[i] :=
  hc.follows.getElem hi

theorem mem_basics_last {j : Nat} :
    j ∈ (t.stage cells cells.length).basics ↔ j ∈ (t.stage cells 0).basics := by
  rw [stage, List.take_length, ← mem_basis, hc.closed, mem_basis]
  rfl

/-- **The value is the same all along a cycle.** -/
theorem value_stage {i j : Nat} (hi : i ≤ cells.length) (hj : j ≤ cells.length) :
    (t.stage cells i).value ≤ (t.stage cells j).value := by
  refine le_of_closed (f := fun i => (t.stage cells i).value) (fun i hi => ?_) ?_ hi hj
  · obtain ⟨row, hrow, hpos, _⟩ := (hc.step hi).ratioStep.tightest
    have hprice := (entering?_eq_some (hc.step hi).1).2.2.1
    have hratio := div_nonneg (hc.nonneg_stage i row (List.mem_of_getElem? hrow)) hpos.le
    show (t.stage cells i).value ≤ (t.stage cells (i + 1)).value
    rw [stage_succ t hi, (hc.canonical_stage i).1.value_pivot hrow]
    nlinarith
  · have hlast := (hc.canonical_stage cells.length).1
    have heq := (hc.canonical_stage cells.length).2.symm
    exact (hlast.value_eq_of_valueAt_eq hc.canonical heq
      (hlast.valueAt_eq_of_basics hc.canonical heq fun j => hc.mem_basics_last.mp)).le

/-- **Every ratio in a cycle is zero.** -/
theorem rhs_eq_zero {i : Nat} (hi : i < cells.length) {row : Row Rat}
    (hrow : (t.stage cells i).rows[cells[i].row]? = some row) : row.rhs = 0 := by
  obtain ⟨row', hrow', hpos, _⟩ := (hc.step hi).ratioStep.tightest
  obtain rfl : row = row' := Option.some.inj (hrow.symm.trans hrow')
  have hprice := (entering?_eq_some (hc.step hi).1).2.2.1
  have hle := hc.value_stage (Nat.succ_le_of_lt hi) hi.le
  rw [Nat.succ_eq_add_one, stage_succ t hi, (hc.canonical_stage i).1.value_pivot hrow]
    at hle
  have hrhs := hc.nonneg_stage i row (List.mem_of_getElem? hrow)
  have hratio : row.rhs / row.coeff cells[i].column ≤ 0 := by
    by_contra hgt
    nlinarith [not_le.mp hgt]
  refine le_antisymm ?_ hrhs
  rwa [div_le_iff₀ hpos, zero_mul] at hratio

/-- **All tableaux of a cycle have one basic solution.** -/
theorem valueAt_stage {i : Nat} (hi : i ≤ cells.length) :
    (t.stage cells i).valueAt = t.valueAt := by
  induction i with
  | zero => rfl
  | succ i ih =>
    have hi' : i < cells.length := hi
    obtain ⟨hcan, _⟩ := hc.canonical_stage i
    obtain ⟨row, hrow, _, _⟩ := (hc.step hi').ratioStep.tightest
    rw [stage_succ t hi',
      hcan.valueAt_pivot_of_rhs_eq_zero ((hc.step hi').pivotal le_rfl) hrow
      (hc.rhs_eq_zero hi' hrow), ih hi'.le]

/-- A variable that is basic at one tableau of a cycle and not at another enters
somewhere. -/
theorem exists_enters {i j k : Nat} (hi : i ≤ cells.length) (hj : j ≤ cells.length)
    (hki : k ∈ (t.stage cells i).basics) (hkj : k ∉ (t.stage cells j).basics) :
    ∃ l, ∃ hl : l < cells.length, cells[l].column = k := by
  by_contra hnone
  simp only [not_exists] at hnone
  refine le_of_closed (f := fun i => k ∉ (t.stage cells i).basics)
    (fun l hl hk hk' => ?_) ?_
    hj hi hkj hki
  · rw [stage_succ t hl] at hk'
    rcases mem_basics_of_mem_pivot hk' with h | h
    · exact hk h
    · exact hnone l hl h.symm
  · exact fun h h0 => h (hc.mem_basics_last.mpr h0)

/-- **What enters in a cycle also leaves in it.** -/
theorem exists_leaves {j : Nat} (hj : j < cells.length) :
    ∃ i, ∃ hi : i < cells.length, ∃ row,
      (t.stage cells i).rows[cells[i].row]? = some row ∧
      row.basic = cells[j].column := by
  by_contra hnone
  simp only [not_exists, not_and] at hnone
  have hout := (hc.canonical_stage j).1.entering_notMem (hc.step hj).1
  obtain ⟨row, hrow, _, _⟩ := (hc.step hj).ratioStep.tightest
  have hin : cells[j].column ∈ (t.stage cells (j + 1)).basics := by
    rw [stage_succ t hj]
    exact column_mem_basics_pivot hrow
  refine hout (le_of_closed (f := fun i => cells[j].column ∈ (t.stage cells i).basics)
    (fun l hl hk => ?_) hc.mem_basics_last.mp (Nat.succ_le_of_lt hj) hj.le hin)
  by_contra hk'
  obtain ⟨row, hrow, _, _⟩ := (hc.step hl).ratioStep.tightest
  have hk'' : cells[j].column ∉ (t.stage cells (l + 1)).basics := hk'
  rw [stage_succ t hl] at hk''
  exact hnone l hl row hrow (basic_eq_of_notMem_pivot hrow hk hk'')

end Cycle

/-- **The second tie-break**: a row at zero whose basic variable comes before the
leaving one does not limit the entering column. -/
theorem BlandStep.coeff_nonpos {cell : Cell} {row other : Row Rat}
    (h : BlandStep columns 0 t cell)
    (hrow : t.rows[cell.row]? = some row) (hother : other ∈ t.rows) (hzero : row.rhs = 0)
    (hzero' : other.rhs = 0) (hlt : other.basic < row.basic) :
    other.coeff cell.column ≤ 0 := by
  obtain ⟨row', hrow', _, htight⟩ := h.ratioStep.tightest
  obtain rfl : row = row' := Option.some.inj (hrow.symm.trans hrow')
  by_contra hgt
  rcases htight other hother (not_le.mp hgt) with hratio | ⟨_, hle⟩
  · rw [hzero, hzero', zero_div, zero_div] at hratio
    exact lt_irrefl 0 hratio
  · exact absurd hlt (not_lt.mpr hle)

/-- **The clash.** No basic solution is common to two tableaux of which one lets
`leave.column` enter for the variable that the other lets enter, if that variable is the
later one and comes after all variables that are basic at the first tableau alone. -/
theorem clash {D E : Tableau Rat} (hD : D.Canonical) (hE : E.Canonical)
    (heq : D.Equivalent E) (hvalue : D.valueAt = E.valueAt) {leave : Cell} {q : Nat}
    (hleave : BlandStep columns 0 D leave)
    (henter : E.entering? columns 0 = some q) {row : Row Rat}
    (hrow : D.rows[leave.row]? = some row) (hbasic : row.basic = q) (hzero : row.rhs = 0)
    (hlt : leave.column < q) (hlast : ∀ k ∈ D.basics, k ∉ E.basics → k ≤ q) : False := by
  obtain ⟨_, _, hq, hfirst⟩ := entering?_eq_some henter
  have hs := (entering?_eq_some hleave.1).2.2.1
  rw [neg_zero] at hq hs
  have hout := hD.entering_notMem hleave.1
  have hsmall : ∀ k < q, 0 ≤ E.price.coeff k := by
    intro k hk
    have := hfirst k hk
    rwa [neg_zero, not_lt] at this
  obtain ⟨row', hrow', hpos, _⟩ := hleave.ratioStep.tightest
  obtain rfl : row = row' := Option.some.inj (hrow.symm.trans hrow')
  -- the change of the objective along the edge, in the prices at the other tableau
  have hchange : linear E.price.coeffs (D.along leave.column 1)
      = D.price.coeff leave.column := by
    have hobjective := heq.objective _ (hD.solves_along leave.column 1)
    have hsame := hD.value_eq_of_valueAt_eq hE heq hvalue
    rw [hD.residual_price_along, hsame, Equation.residual, value] at hobjective
    linarith
  have hneg : linear E.price.coeffs (D.along leave.column 1) < 0 := hchange.trans_lt hs
  refine hneg.not_ge (Finset.sum_nonneg fun k _ => ?_)
  show 0 ≤ E.price.coeff k * D.along leave.column 1 k
  by_cases hkD : k ∈ D.basics
  · by_cases hkE : k ∈ E.basics
    · obtain ⟨r, hr, rfl⟩ := List.mem_map.mp hkE
      rw [hE.priced r hr, zero_mul]
    rcases lt_or_eq_of_le (hlast k hkD hkE) with hkq | rfl
    · obtain ⟨r, hr, rfl⟩ := List.mem_map.mp hkD
      have hrhs : r.rhs = 0 := by
        rw [← hD.valueAt_basic hr, hvalue, valueAt_of_notMem hkE]
      have hcoeff : r.coeff leave.column ≤ 0 :=
        hleave.coeff_nonpos hrow hr hzero hrhs (hbasic.symm ▸ hkq)
      rw [hD.along_basic hr hout, hrhs]
      exact mul_nonneg (hsmall _ hkq) (by linarith)
    · rw [← hbasic, hD.along_basic (List.mem_of_getElem? hrow) hout, hzero, hbasic]
      exact mul_nonneg_of_nonpos_of_nonpos hq.le (by linarith)
  · rw [along_of_notMem hkD]
    split
    · next h => rw [h, mul_one]; exact hsmall _ hlt
    · rw [mul_zero]

/-- **There is no cycle** but the empty one. -/
theorem Cycle.eq_nil (hc : Cycle columns t cells) : cells = [] := by
  by_contra hne
  -- the last of the variables that enter
  obtain ⟨⟨j, hj⟩, _, hmax⟩ :=
    Finset.exists_max_image (Finset.univ : Finset (Fin cells.length))
      (fun l => cells[l.val].column) ⟨⟨0, List.length_pos_iff.mpr hne⟩, Finset.mem_univ _⟩
  have hlast : ∀ l, ∀ hl : l < cells.length, cells[l].column ≤ cells[j].column :=
    fun l hl => hmax ⟨l, hl⟩ (Finset.mem_univ _)
  obtain ⟨i, hi, row, hrow, hbasic⟩ := hc.exists_leaves hj
  obtain ⟨hD, hteqD⟩ := hc.canonical_stage i
  obtain ⟨hE, hteqE⟩ := hc.canonical_stage j
  have hlt : cells[i].column < cells[j].column := by
    refine lt_of_le_of_ne (hlast i hi) fun heq => hD.entering_notMem (hc.step hi).1 ?_
    rw [heq, ← hbasic]
    exact mem_basics (List.mem_of_getElem? hrow)
  refine clash hD hE (hteqD.symm.trans hteqE) ?_ (hc.step hi) (hc.step hj).1 hrow hbasic
    (hc.rhs_eq_zero hi hrow) hlt fun k hkD hkE => ?_
  · rw [hc.valueAt_stage hi.le, hc.valueAt_stage hj.le]
  · obtain ⟨l, hl, rfl⟩ := hc.exists_enters hi.le hj.le hkD hkE
    exact hlast l hl

/-! ## Termination -/

/-- **A run never returns to a basis** that it has been at. -/
def NeverReturns {K : Type} [Scalar K] (t : Tableau K) (cells : List Cell) : Prop :=
  ∀ i j, i < j → j ≤ cells.length → (t.stage cells i).basis ≠ (t.stage cells j).basis

/-- **Bland's rule never returns to a basis.** -/
theorem Follows.neverReturns (h : t.Follows (BlandStep columns 0) cells)
    (ht : t.Canonical) (hn : t.Nonneg) : t.NeverReturns cells := by
  intro i j hij hj heq
  -- the pivots between two visits would be a cycle
  have hsplit : cells.take j = cells.take i ++ (cells.take j).drop i := by
    conv_lhs =>
      rw [← List.take_append_drop i (cells.take j), List.take_take, min_eq_left hij.le]
  have hfollows := h.take j
  rw [hsplit, follows_append] at hfollows
  have hcycle : Cycle columns (t.stage cells i) ((cells.take j).drop i) :=
    { canonical := ((h.take i).pivotal_of_bland le_rfl).canonical ht |>.1
      nonneg := (h.take i).ratio_of_bland.nonneg ht hn
      follows := hfollows.2
      closed := by rw [stage, ← pivots_append, ← hsplit]; exact heq.symm }
  have hlength := congrArg List.length hcycle.eq_nil
  rw [List.length_drop, List.length_take, List.length_nil] at hlength
  omega

/-- **A run that never returns is shorter than the number of bases.** -/
theorem NeverReturns.length_lt (h : t.NeverReturns cells) (ht : t.Canonical)
    (hp : t.Follows Pivotal cells) : cells.length < t.width.choose t.height := by
  have hmaps :
    Set.MapsTo (fun i => (t.stage cells i).basis) (Finset.range (cells.length + 1))
      ((Finset.range t.width).powersetCard t.height) := by
    intro i _
    obtain ⟨hcan, heq⟩ := (hp.take i).canonical ht
    refine Finset.mem_coe.mpr (Finset.mem_powersetCard.mpr ⟨?_, ?_⟩)
    · exact heq.width ▸ hcan.basis_subset
    · exact heq.height ▸ hcan.card_basis
  have hinj :
      Set.InjOn (fun i => (t.stage cells i).basis) (Finset.range (cells.length + 1)) := by
    intro i hi j hj hij
    have hi' := Finset.mem_range.mp (Finset.mem_coe.mp hi)
    have hj' := Finset.mem_range.mp (Finset.mem_coe.mp hj)
    rcases lt_trichotomy i j with hlt | heq | hgt
    · exact absurd hij (h i j hlt (by omega))
    · exact heq
    · exact absurd hij.symm (h j i hgt (by omega))
  have hcard := Finset.card_le_card_of_injOn _ hmaps hinj
  rw [Finset.card_range, Finset.card_powersetCard, Finset.card_range] at hcard
  exact hcard

/-- **An ascent with a budget for all bases is not exhausted.** -/
theorem ascend_stop_ne_exhausted (ht : t.Canonical) (hn : t.Nonneg) {budget : Nat}
    (hbudget : t.width.choose t.height ≤ budget) :
    (t.ascend columns 0 budget).stop ≠ .exhausted := by
  intro hstop
  have hphase := isAscent_ascend columns 0 budget t
  have hlt := (hphase.follows.neverReturns ht hn).length_lt ht
    (hphase.follows.pivotal_of_bland le_rfl)
  rw [hphase.exhausted hstop] at hlt
  omega

/-! ## Both phases -/

theorem neverReturns_nil {K : Type} [Scalar K] (t : Tableau K) : t.NeverReturns [] :=
  fun i _ hij hj => absurd (hij.trans_le hj) (Nat.not_lt_zero i)

/-- Which bases a run visits depends on the rows alone. -/
theorem NeverReturns.congr {K : Type} [Scalar K] {t t' : Tableau K} {cells : List Cell}
    (h : t.rows = t'.rows) (hr : t.NeverReturns cells) : t'.NeverReturns cells := by
  intro i j hij hj
  unfold stage
  rw [← basis_congr (rows_pivots_congr h (cells.take i)),
    ← basis_congr (rows_pivots_congr h (cells.take j))]
  exact hr i j hij hj

/-- The first phase never returns to a basis. -/
theorem neverReturns_repairPhase (ht : t.Canonical) (hn : t.Nonneg) (budget : Nat) :
    t.NeverReturns (t.repairPhase ⟨0, budget⟩).cells := by
  have hrows : t.withShortfall.rows = t.rows := rfl
  have hphase := (isAscent_repairPhase t ⟨0, budget⟩).follows
  exact (hphase.neverReturns ht.withShortfall hn).congr hrows

/-- **Neither phase of an exact optimization returns to a basis.** -/
theorem Fit.neverReturns_optimize (ht : t.Fit) (budget : Nat) :
    t.NeverReturns (t.optimize ⟨0, budget⟩).repair ∧
      (t.pivots ((t.optimize ⟨0, budget⟩).repair
        ++ (t.optimize ⟨0, budget⟩).evictions.getD [])).NeverReturns
          (t.optimize ⟨0, budget⟩).ascent := by
  have hrepair := neverReturns_repairPhase ht.toCanonical ht.nonneg budget
  have hmaximize : ∀ (s : Tableau Rat) (budget' : Nat), s.Canonical → s.Nonneg →
      s.NeverReturns (s.ascend s.firstArtificial 0 budget').cells :=
        fun s budget' hs hn =>
    (isAscent_ascend s.firstArtificial 0 budget' s).follows.neverReturns hs hn
  refine optimize_cases t ⟨0, budget⟩ (fun _ => ?_) (fun _ e _ => ?_) (fun _ _ _ => ?_)
    (fun _ _ hshort => ?_)
  · exact ⟨neverReturns_nil t, hmaximize t budget ht.toCanonical ht.nonneg⟩
  · exact ⟨hrepair, neverReturns_nil _⟩
  · exact ⟨hrepair, neverReturns_nil _⟩
  · obtain ⟨hready, _⟩ := ready_repaired ht.toCanonical ht.nonneg ht.free hshort
    refine ⟨hrepair, ?_⟩
    show (t.pivots
      ((t.repairPhase ⟨0, budget⟩).cells ++ (t.repaired ⟨0, budget⟩).2)).NeverReturns _
    rw [← repaired_fst]
    exact hmaximize _ _ hready.toCanonical hready.nonneg

theorem verdict_ne_exhausted_of_stop {stop : Stop} (h : stop ≠ .exhausted)
    (budget budget' : Nat) :
    (stop.verdict budget : Except (SolveError Rat) Unit) ≠ .error (.exhausted budget') :=
  fun heq => h (stop_eq_exhausted_of_verdict heq)

/-- **An optimization with a budget for all bases in both phases is not exhausted.** -/
theorem Fit.verdict_ne_exhausted (ht : t.Fit) {budget : Nat}
    (hbudget : 2 * t.width.choose t.height ≤ budget) (budget' : Nat) :
    (t.optimize ⟨0, budget⟩).verdict ≠ .error (.exhausted budget') := by
  have hphase : (t.repairPhase ⟨0, budget⟩).stop ≠ .exhausted :=
    ascend_stop_ne_exhausted ht.withShortfall ht.nonneg
      (show t.width.choose t.height ≤ budget by omega)
  refine optimize_cases t ⟨0, budget⟩ (fun _ => ?_) (fun _ e he => ?_) (fun _ _ _ => ?_)
    (fun _ _ hshort => ?_)
  · exact verdict_ne_exhausted_of_stop
      (ascend_stop_ne_exhausted ht.toCanonical ht.nonneg
        (show t.width.choose t.height ≤ budget by omega)) _ _
  · exact he ▸ verdict_ne_exhausted_of_stop hphase _ _
  · intro heq
    cases heq
  · -- the first phase spends less than half of the budget
    obtain ⟨hready, heq⟩ := ready_repaired ht.toCanonical ht.nonneg ht.free hshort
    have hspent : (t.repairPhase ⟨0, budget⟩).cells.length < t.width.choose t.height :=
      (neverReturns_repairPhase ht.toCanonical ht.nonneg budget).length_lt ht.toCanonical
        (follows_repairPhase le_rfl)
    refine verdict_ne_exhausted_of_stop
      (ascend_stop_ne_exhausted hready.toCanonical hready.nonneg ?_) _ _
    rw [heq.width, heq.height]
    show _ ≤ budget - _
    omega

section Dense

variable {objective bounds : List Rat} {matrix : List (List Rat)}
  (shape : ofDense? objective matrix bounds = .ok t)

include shape

/-- **The simplex method terminates** with the tolerance at zero, however degenerate the
program. The tableau at the end is made by the pivots on record, neither phase returns
to a basis, and a budget of twice the number of candidate bases suffices for a proper
verdict. -/
theorem optimize_terminates (budget : Nat) :
    (t.optimize ⟨0, budget⟩).tableau = t.pivots (t.optimize ⟨0, budget⟩).cells ∧
    t.NeverReturns (t.optimize ⟨0, budget⟩).repair ∧
    (t.pivots ((t.optimize ⟨0, budget⟩).repair
      ++ (t.optimize ⟨0, budget⟩).evictions.getD [])).NeverReturns
        (t.optimize ⟨0, budget⟩).ascent ∧
    (2 * (objective.length + bounds.length + bounds.countP (· < 0)).choose bounds.length
      ≤ budget →
      (t.optimize ⟨0, budget⟩).verdict = .ok () ∨
        (∃ shortfall, (t.optimize ⟨0, budget⟩).verdict = .error (.infeasible shortfall)) ∨
        ∃ column, (t.optimize ⟨0, budget⟩).verdict = .error (.unbounded column)) := by
  have hfit := fit_of_ofDense? shape
  obtain ⟨hrepair, hascent⟩ := hfit.neverReturns_optimize budget
  refine ⟨tableau_optimize t _, hrepair, hascent, fun hbudget => ?_⟩
  rw [← width_of_ofDense? shape, ← height_of_ofDense? shape] at hbudget
  cases hverdict : (t.optimize ⟨0, budget⟩).verdict with
  | ok _ => exact Or.inl rfl
  | error e =>
    cases e with
    | infeasible shortfall => exact Or.inr (Or.inl ⟨shortfall, rfl⟩)
    | unbounded column => exact Or.inr (Or.inr ⟨column, rfl⟩)
    | exhausted budget' =>
      exact absurd hverdict (hfit.verdict_ne_exhausted hbudget budget')

end Dense

/-- A degenerate program: its only feasible point lies on the boundary of all three
constraints. -/
theorem optimize_terminates_degenerate :
    2 * (2 + 3 + 1).choose 3 ≤ 40 ∧
      (((start [1, 1] [⟨[1, 2], 2⟩, ⟨[1, -1], 2⟩, ⟨[-1, 0], (-2 : Rat)⟩]).optimize
          ⟨0, 40⟩).verdict = .ok () ∨
        (∃ shortfall,
          ((start [1, 1] [⟨[1, 2], 2⟩, ⟨[1, -1], 2⟩, ⟨[-1, 0], (-2 : Rat)⟩]).optimize
            ⟨0, 40⟩).verdict = .error (.infeasible shortfall)) ∨
        ∃ column,
          ((start [1, 1] [⟨[1, 2], 2⟩, ⟨[1, -1], 2⟩, ⟨[-1, 0], (-2 : Rat)⟩]).optimize
            ⟨0, 40⟩).verdict = .error (.unbounded column)) := by
  have shape : ofDense? [1, 1] [[1, 2], [1, -1], [-1, 0]] [2, 2, -2]
    = .ok (start [1, 1] [⟨[1, 2], 2⟩, ⟨[1, -1], 2⟩, ⟨[-1, 0], (-2 : Rat)⟩]) := rfl
  have hbudget : 2 * (2 + 3 + 1).choose 3 ≤ 40 := by decide
  have hcount : ([2, 2, -2] : List Rat).countP (· < 0) = 1 := by decide +kernel
  refine ⟨hbudget, (optimize_terminates shape 40).2.2.2 ?_⟩
  rw [hcount]
  exact hbudget

end Tableau

end LatticeLP

import LatticeLP.Proofs.Tableau.BasicSolution
import LatticeLP.Proofs.Tableau.LimitChoice
import LatticeLP.Proofs.Tableau.Runs

/-!
# What Bland's rule decides

The two choices of Bland's rule, read off the tableau. A column that enters has a price
below minus the tolerance, and the columns in front of it do not; a row that leaves has
an entry above the tolerance, so that a pivot may divide by it (`BlandStep.pivotal`).

With the tolerance at zero the choices say more. The leaving row is a *tightest* limit,
and among the tightest ones its basic variable comes first (`RatioStep.tightest`). A
pivot there keeps the right-hand sides non-negative (`RatioStep.nonneg_pivot`), whatever
made the column enter. Where no column enters the basic solution is optimal
(`residual_le_value`), and where nothing leaves the edge of the entering column is a ray
of solutions along which the objective grows without bound (`Canonical.along_nonneg`).
-/

namespace LatticeLP

/-! ## Choosing a limit -/

/-- A limit is at least as tight as another, and where they agree its variable comes no
later. -/
def Limit.Beats (a b : Limit Rat) : Prop :=
  a.ratio < b.ratio ∨ (a.ratio = b.ratio ∧ a.basic ≤ b.basic)

/-- **With the tolerance at zero the choice beats all limits.** -/
theorem beats_of_foldl_choose {a b : Limit Rat} {limits : List (Limit Rat)}
    (h : limits.foldl (Limit.choose 0) (some a) = some b) :
    ∀ c ∈ a :: limits, b.Beats c := by
  intro c hc
  rcases Limit.outranks_of_foldl_choose le_rfl (Limit.classed_zero _) h c hc with
    hlt | ⟨hties, hbasic⟩
  · exact .inl (by linarith)
  · exact .inr ⟨Limit.ties_zero_iff.mp hties, hbasic⟩

namespace Tableau

section Choices

variable {K : Type} [Scalar K] {t : Tableau K} {tolerance : K} {column : Nat}

/-- The limits of a column are its entries above the tolerance. -/
theorem mem_limits_iff {l : Limit K} :
    l ∈ t.limits column tolerance ↔ ∃ row, t.rows[l.row]? = some row ∧
      tolerance < row.coeff column ∧
        l = ⟨l.row, row.basic, row.rhs / row.coeff column⟩ := by
  unfold limits
  rw [List.mem_filterMap]
  constructor
  · rintro ⟨⟨row, index⟩, hmem, h⟩
    have hrow := List.mk_mem_zipIdx_iff_getElem?.mp hmem
    dsimp only at h
    by_cases hpos : tolerance < row.coeff column
    · rw [if_pos hpos, Option.some.injEq] at h
      subst h
      exact ⟨row, hrow, hpos, rfl⟩
    · rw [if_neg hpos] at h
      cases h
  · rintro ⟨row, hrow, hpos, heq⟩
    refine ⟨(row, l.row), List.mk_mem_zipIdx_iff_getElem?.mpr hrow, ?_⟩
    dsimp only
    rw [if_pos hpos]
    exact congrArg some heq.symm

/-- A leaving row is the row of a limit that the fold ends at. -/
theorem exists_limit_of_leaving? {i : Nat} (h : t.leaving? column tolerance = some i) :
    ∃ l ∈ t.limits column tolerance, l.row = i ∧
      (t.limits column tolerance).foldl (Limit.choose tolerance) none = some l := by
  rw [leaving?, Option.map_eq_some_iff] at h
  obtain ⟨l, hl, rfl⟩ := h
  cases hlimits : t.limits column tolerance with
  | nil => rw [hlimits] at hl; cases hl
  | cons a limits =>
    rw [hlimits] at hl
    obtain ⟨b, hb, heq⟩ := Limit.exists_foldl_choose tolerance a limits
    obtain rfl : b = l := Option.some.inj (heq.symm.trans hl)
    exact ⟨b, hb, rfl, hl⟩

/-- **A leaving row has an entry above the tolerance.** -/
theorem exists_of_leaving? {i : Nat} (h : t.leaving? column tolerance = some i) :
    ∃ row, t.rows[i]? = some row ∧ tolerance < row.coeff column := by
  obtain ⟨l, hl, rfl, _⟩ := exists_limit_of_leaving? h
  obtain ⟨row, hrow, hpos, _⟩ := mem_limits_iff.mp hl
  exact ⟨row, hrow, hpos⟩

/-- **Where nothing leaves, no entry is above the tolerance.** -/
theorem not_lt_of_leaving?_eq_none (h : t.leaving? column tolerance = none) :
    ∀ row ∈ t.rows, ¬ tolerance < row.coeff column := by
  intro row hrow hpos
  obtain ⟨i, hi⟩ := List.mem_iff_getElem?.mp hrow
  have hmem : (⟨i, row.basic, row.rhs / row.coeff column⟩ : Limit K)
      ∈ t.limits column tolerance := mem_limits_iff.mpr ⟨row, hi, hpos, rfl⟩
  rw [leaving?, Option.map_eq_none_iff] at h
  cases hlimits : t.limits column tolerance with
  | nil => rw [hlimits] at hmem; cases hmem
  | cons a limits =>
    rw [hlimits] at h
    obtain ⟨b, _, heq⟩ := Limit.exists_foldl_choose tolerance a limits
    rw [List.foldl_cons, show Limit.choose tolerance none a = some a from rfl, heq] at h
    cases h

/-- **The entering column** is the first of the leading ones with a negative price. -/
theorem entering?_eq_some {columns : Nat}
    (h : t.entering? columns tolerance = some column) :
    column < columns ∧ column < t.price.coeffs.length ∧
      t.price.coeff column < -tolerance ∧
      ∀ j < column, ¬ t.price.coeff j < -tolerance := by
  obtain ⟨hlt, hneg, hfirst⟩ := List.findIdx?_eq_some_iff_getElem.mp h
  have hlt' : column < columns ∧ column < t.price.coeffs.length := by
    simpa [List.length_take] using hlt
  refine ⟨hlt'.1, hlt'.2, ?_, fun j hj => ?_⟩
  · simpa [Equation.coeff, hlt'.2] using hneg
  · have hj' : j < t.price.coeffs.length := hj.trans hlt'.2
    simpa [Equation.coeff, hj'] using hfirst j hj

/-- **Where no column enters, none of the leading ones has a negative price.** -/
theorem not_lt_of_entering?_eq_none {columns : Nat}
    (h : t.entering? columns tolerance = none) {j : Nat} (hj : j < columns)
    (hlen : j < t.price.coeffs.length) : ¬ t.price.coeff j < -tolerance := by
  have hall := List.findIdx?_eq_none_iff.mp h t.price.coeffs[j]
    (List.mem_take_iff_getElem.mpr ⟨j, by omega, rfl⟩)
  simpa [Equation.coeff, hlen] using hall

end Choices

variable {t : Tableau Rat} {tolerance : Rat} {columns : Nat} {cell : Cell}

/-- **Bland's rule pivots where it may**, at a tolerance that is not negative. -/
theorem BlandStep.pivotal (h0 : 0 ≤ tolerance) (h : BlandStep columns tolerance t cell) :
    t.Pivotal cell := by
  obtain ⟨row, hrow, hpos⟩ := exists_of_leaving? h.2
  exact ⟨row, hrow, (h0.trans_lt hpos).ne'⟩

/-- So does eviction. -/
theorem EvictionStep.pivotal (h0 : 0 ≤ tolerance) (h : EvictionStep tolerance t cell) :
    t.Pivotal cell := by
  obtain ⟨row, hrow, _, hfind, _⟩ := eviction?_eq_some_iff.mp h
  refine ⟨row, hrow, fun hzero => ?_⟩
  have habs := List.find?_some hfind
  rw [hzero, decide_eq_true_eq] at habs
  exact absurd habs (by simpa [Scalar.abs] using h0)

/-! ## Right-hand sides -/

/-- No right-hand side is negative. -/
def Nonneg (t : Tableau Rat) : Prop :=
  ∀ row ∈ t.rows, 0 ≤ row.rhs

/-- A basic solution is not negative if no right-hand side is. -/
theorem Canonical.valueAt_nonneg (ht : t.Canonical) (hn : t.Nonneg) (j : Nat) :
    0 ≤ t.valueAt j := by
  by_cases h : j ∈ t.basics
  · obtain ⟨row, hrow, rfl⟩ := List.mem_map.mp h
    rw [ht.valueAt_basic hrow]
    exact hn row hrow
  · rw [valueAt_of_notMem h]

/-- **The exact ratio test**: a pivot at the tightest limit of one of the leading
`columns`, for whatever reason the column enters. -/
def RatioStep (columns : Nat) (t : Tableau Rat) (cell : Cell) : Prop :=
  cell.column < columns ∧ t.leaving? cell.column 0 = some cell.row

theorem BlandStep.ratioStep (h : BlandStep columns 0 t cell) : RatioStep columns t cell :=
  ⟨(entering?_eq_some h.1).1, h.2⟩

/-- **A leaving row limits the entering column most tightly**, and among the rows that
do its basic variable comes first. -/
theorem RatioStep.tightest (h : RatioStep columns t cell) :
    ∃ row, t.rows[cell.row]? = some row ∧ 0 < row.coeff cell.column ∧
      ∀ other ∈ t.rows, 0 < other.coeff cell.column →
        row.rhs / row.coeff cell.column < other.rhs / other.coeff cell.column ∨
          (row.rhs / row.coeff cell.column = other.rhs / other.coeff cell.column ∧
            row.basic ≤ other.basic) := by
  obtain ⟨l, hl, hrow, hfold⟩ := exists_limit_of_leaving? h.2
  obtain ⟨row, hget, hpos, heq⟩ := mem_limits_iff.mp hl
  refine ⟨row, hrow ▸ hget, hpos, fun other hother hopos => ?_⟩
  obtain ⟨i, hi⟩ := List.mem_iff_getElem?.mp hother
  have hmem : (⟨i, other.basic, other.rhs / other.coeff cell.column⟩ : Limit Rat)
      ∈ t.limits cell.column 0 := mem_limits_iff.mpr ⟨other, hi, hopos, rfl⟩
  cases hlimits : t.limits cell.column 0 with
  | nil => rw [hlimits] at hmem; cases hmem
  | cons a limits =>
    rw [hlimits] at hmem hfold
    have hbeats := beats_of_foldl_choose hfold _ hmem
    rw [heq] at hbeats
    exact hbeats

theorem RatioStep.pivotal (h : RatioStep columns t cell) : t.Pivotal cell := by
  obtain ⟨row, hrow, hpos, _⟩ := h.tightest
  exact ⟨row, hrow, hpos.ne'⟩

/-- The right-hand sides of a pivot. -/
theorem Canonical.rhs_pivot (ht : t.Canonical) {row : Row Rat}
    (hrow : t.rows[cell.row]? = some row) {new : Row Rat}
    (hnew : new ∈ (t.pivot cell).rows) :
    new.rhs = row.rhs / row.coeff cell.column ∨ ∃ other ∈ t.rows,
      new.basic = other.basic ∧
        new.rhs
          = other.rhs - other.coeff cell.column * (row.rhs / row.coeff cell.column) := by
  obtain ⟨i, other, hother, rfl⟩ := exists_of_mem_pivot hrow hnew
  have hmem := List.mem_of_getElem? hother
  split
  · exact Or.inl rfl
  · refine Or.inr ⟨other, hmem, rfl, ?_⟩
    show (other.toEquation.eliminate _ _).rhs = _
    rw [Equation.rhs_eliminate _ (ht.length_eq_pivotRow hrow hmem)]
    rfl

/-- **A pivot at the tightest limit keeps the right-hand sides non-negative.** -/
theorem RatioStep.nonneg_pivot (h : RatioStep columns t cell) (ht : t.Canonical)
    (hn : t.Nonneg) : (t.pivot cell).Nonneg := by
  obtain ⟨row, hrow, hpos, htight⟩ := h.tightest
  have hratio : 0 ≤ row.rhs / row.coeff cell.column :=
    div_nonneg (hn row (List.mem_of_getElem? hrow)) hpos.le
  intro new hnew
  rcases ht.rhs_pivot hrow hnew with heq | ⟨other, hother, _, heq⟩
  · rw [heq]
    exact hratio
  · rw [heq]
    rcases le_or_gt (other.coeff cell.column) 0 with hle | hgt
    · have := mul_nonpos_of_nonpos_of_nonneg hle hratio
      linarith [hn other hother]
    · have hmin : row.rhs / row.coeff cell.column
          ≤ other.rhs / other.coeff cell.column := by
        rcases htight other hother hgt with hlt | ⟨heq, _⟩
        · exact hlt.le
        · exact heq.le
      have := mul_le_mul_of_nonneg_left hmin hgt.le
      rw [mul_div_cancel₀ _ hgt.ne'] at this
      linarith

/-! ## Certificates -/

/-- A column that enters has a negative price. -/
theorem price_neg_of_entering? (h0 : 0 ≤ tolerance) {column : Nat}
    (h : t.entering? columns tolerance = some column) : t.price.coeff column < 0 :=
  (entering?_eq_some h).2.2.1.trans_le (neg_nonpos.mpr h0)

/-- The column that enters is not basic. -/
theorem Canonical.entering_notMem (ht : t.Canonical) {column : Nat}
    (h : t.entering? columns 0 = some column) : column ∉ t.basics :=
  ht.notMem_basics_of_price (price_neg_of_entering? le_rfl h).ne

/-- **Where no column enters, no solution does much better**: what it gains is within
the tolerance for each unit of its variables. -/
theorem residual_le_value_add (h0 : 0 ≤ tolerance)
    (h : t.entering? columns tolerance = none)
    {n : Nat} (hn : n ≤ columns) {v : Nat → Rat} (hpos : ∀ j, 0 ≤ v j)
    (hzero : ∀ j, n ≤ j → v j = 0) :
    t.price.residual v ≤ t.value + tolerance * ∑ j ∈ Finset.range n, v j := by
  set width := max t.price.coeffs.length n with hwidth
  have hprice : ∀ j < n, -tolerance ≤ t.price.coeff j := fun j hj => by
    rcases lt_or_ge j t.price.coeffs.length with hlt | hge
    · exact not_lt.mp (not_lt_of_entering?_eq_none h (hj.trans_le hn) hlt)
    · rw [Equation.coeff_of_length_le hge]
      linarith
  have hterm : ∀ j ∈ Finset.range width, -tolerance * v j ≤ t.price.coeff j * v j :=
    fun j _ => by
      rcases lt_or_ge j n with hlt | hge
      · exact mul_le_mul_of_nonneg_right (hprice j hlt) (hpos j)
      · rw [hzero j hge, mul_zero, mul_zero]
  have hsum : ∑ j ∈ Finset.range n, v j = ∑ j ∈ Finset.range width, v j :=
    Finset.sum_subset (Finset.range_subset_range.mpr (Nat.le_max_right _ _)) fun j _ hj =>
      hzero j (not_lt.mp fun hlt => hj (Finset.mem_range.mpr hlt))
  have hlin : -tolerance * ∑ j ∈ Finset.range n, v j ≤ linear t.price.coeffs v := by
    rw [hsum, Finset.mul_sum, linear_eq_sum (Nat.le_max_left _ n)]
    exact Finset.sum_le_sum hterm
  rw [Equation.residual, value]
  linarith

/-- **Where no column enters, no solution does better**, with the tolerance at zero. It
is enough that a solution is not negative and uses the columns that may enter. -/
theorem residual_le_value (h : t.entering? columns 0 = none) {v : Nat → Rat}
    (hpos : ∀ j, 0 ≤ v j)
    (hzero : ∀ j, columns ≤ j → v j = 0) : t.price.residual v ≤ t.value := by
  have hle := residual_le_value_add le_rfl h le_rfl hpos hzero
  rwa [zero_mul, add_zero] at hle

/-- **Where nothing leaves, the edge is a ray**: no variable turns negative along it. -/
theorem Canonical.along_nonneg (ht : t.Canonical) (hn : t.Nonneg) {column : Nat}
    (hc : column ∉ t.basics) (h : t.leaving? column 0 = none) {y : Rat}
    (hy : 0 ≤ y) (j : Nat) :
    0 ≤ t.along column y j := by
  by_cases hj : j ∈ t.basics
  · obtain ⟨row, hrow, rfl⟩ := List.mem_map.mp hj
    rw [ht.along_basic hrow hc]
    have hle := not_lt.mp (not_lt_of_leaving?_eq_none h row hrow)
    have := mul_nonpos_of_nonneg_of_nonpos hy hle
    linarith [hn row hrow]
  · rw [along_of_notMem hj]
    split
    · exact hy
    · exact le_rfl

/-- **A step of Bland's rule moves the objective up** by the price times the ratio. -/
theorem Canonical.value_pivot (ht : t.Canonical) {row : Row Rat}
    (hrow : t.rows[cell.row]? = some row) :
    (t.pivot cell).value
      = t.value - t.price.coeff cell.column * (row.rhs / row.coeff cell.column) := by
  rw [value, price_pivot hrow,
    Equation.rhs_eliminate _ (ht.price_length_eq_pivotRow hrow)]
  rfl

end Tableau

end LatticeLP

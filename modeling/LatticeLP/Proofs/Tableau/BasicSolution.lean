import LatticeLP.Proofs.Tableau.Canonical

/-!
# Basic solutions and edges

A canonical tableau describes one solution outright – the **basic solution**, in which
the variables outside the basis are zero and each basic variable is the right-hand side
of its row – and it describes how that solution can move: when a variable outside the
basis grows, the basic variables follow at the rates in its column. That direction is
the variable's **edge**.

Both are built the same way, by *spreading* a number read off each row over the row's
basic variable, and both are evaluated by one lemma (`linear_spread`). Their main
properties are that all rows hold along an edge (`Canonical.solves_along`), that the
objective changes there at the rate of the price (`Canonical.residual_price_along`), and
that nothing but the basic solution solves the rows with all variables outside the basis
at zero (`Canonical.eq_valueAt_of_solves`). The last one makes the basic solution depend
on the basis alone.
-/

namespace LatticeLP

namespace Tableau

variable {t t' : Tableau Rat} {v : Nat → Rat}

/-! ## Spreading numbers over the basis -/

/-- A number read off each row, put on the row's basic variable. -/
def spread (t : Tableau Rat) (f : Row Rat → Rat) : Nat → Rat :=
  fun j => ∑ i : Fin t.rows.length, if t.rows[i.val].basic = j then f t.rows[i.val] else 0

/-- A combination of spread numbers reads the coefficients of the basic variables. -/
theorem linear_spread (t : Tableau Rat) (f : Row Rat → Rat) (coeffs : List Rat) :
    linear coeffs (t.spread f)
      = ∑ i : Fin t.rows.length, f t.rows[i.val] * coeffs.getD t.rows[i.val].basic 0 := by
  have hterm : ∀ i : Fin t.rows.length,
      ∑ j ∈ Finset.range coeffs.length,
          coeffs.getD j 0 * (if t.rows[i.val].basic = j then f t.rows[i.val] else 0)
        = f t.rows[i.val] * coeffs.getD t.rows[i.val].basic 0 := by
    intro i
    rw [← linear_single coeffs t.rows[i.val].basic, linear, Finset.mul_sum]
    refine Finset.sum_congr rfl fun j _ => ?_
    by_cases h : t.rows[i.val].basic = j
    · rw [if_pos h, if_pos h.symm, mul_one, mul_comm]
    · rw [if_neg h, if_neg (Ne.symm h), mul_zero, mul_zero]
  unfold linear spread
  simp_rw [Finset.mul_sum]
  rw [Finset.sum_comm]
  exact Finset.sum_congr rfl fun i _ => hterm i

theorem spread_of_notMem {j : Nat} (h : j ∉ t.basics) (f : Row Rat → Rat) :
    t.spread f j = 0 :=
  Finset.sum_eq_zero fun i _ =>
    if_neg fun hi : t.rows[i.val].basic = j =>
      h (hi ▸ mem_basics (List.getElem_mem i.isLt))

namespace Canonical

variable (ht : t.Canonical)

include ht

/-- In a row, only the number spread from that row is seen. -/
theorem linear_row_spread {row : Row Rat} (h : row ∈ t.rows) (f : Row Rat → Rat) :
    linear row.coeffs (t.spread f) = f row := by
  obtain ⟨k, hk, rfl⟩ := List.getElem_of_mem h
  rw [linear_spread, Finset.sum_eq_single ⟨k, hk⟩]
  · show f t.rows[k] * t.rows[k].coeff t.rows[k].basic = f t.rows[k]
    rw [ht.coeff_basic h, mul_one]
  · intro i _ hi
    have hunit := ht.unit (List.getElem?_eq_getElem hk) (List.getElem?_eq_getElem i.isLt)
    rw [if_neg fun heq : k = i.val => hi (Fin.ext heq.symm)] at hunit
    show f t.rows[i.val] * t.rows[k].coeff t.rows[i.val].basic = 0
    rw [hunit, mul_zero]
  · intro hk'
    exact absurd (Finset.mem_univ _) hk'

/-- The price row sees none of the spread numbers. -/
theorem linear_price_spread (f : Row Rat → Rat) :
    linear t.price.coeffs (t.spread f) = 0 := by
  rw [linear_spread]
  refine Finset.sum_eq_zero fun i _ => ?_
  show f t.rows[i.val] * t.price.coeff t.rows[i.val].basic = 0
  rw [ht.priced _ (List.getElem_mem i.isLt), mul_zero]

/-- Each basic variable receives the number of its own row. -/
theorem spread_basic {row : Row Rat} (h : row ∈ t.rows) (f : Row Rat → Rat) :
    t.spread f row.basic = f row := by
  obtain ⟨k, hk, rfl⟩ := List.getElem_of_mem h
  rw [spread, Finset.sum_eq_single ⟨k, hk⟩]
  · exact if_pos rfl
  · intro i _ hi
    exact if_neg fun heq => hi (Fin.ext (ht.index_eq_of_basic_eq
      (List.getElem?_eq_getElem i.isLt) (List.getElem?_eq_getElem hk) heq))
  · intro hk'
    exact absurd (Finset.mem_univ _) hk'

end Canonical

/-! ## The basic solution -/

theorem valueAt_of_notMem {j : Nat} (h : j ∉ t.basics) : t.valueAt j = 0 := by
  have key : ∀ (rows : List (Row Rat)) (a : Rat), j ∉ rows.map (·.basic) →
      rows.foldl (fun v row => if row.basic = j then row.rhs else v) a = a := by
    intro rows
    induction rows with
    | nil => intro a _; rfl
    | cons row rows ih =>
      intro a hj
      rw [List.map_cons, List.mem_cons, not_or] at hj
      rw [List.foldl_cons, if_neg (Ne.symm hj.1), ih a hj.2]
  exact key t.rows 0 h

namespace Canonical

variable (ht : t.Canonical)

include ht

theorem valueAt_basic {row : Row Rat} (h : row ∈ t.rows) :
    t.valueAt row.basic = row.rhs := by
  -- the last row that names a variable wins, and only one row does
  have key : ∀ (rows : List (Row Rat)) (a : Rat), (rows.map (·.basic)).Nodup →
    row ∈ rows →
      rows.foldl (fun v other => if other.basic = row.basic then other.rhs else v) a
        = row.rhs := by
    intro rows
    induction rows using List.reverseRecOn with
    | nil => intro a _ hmem; exact absurd hmem List.not_mem_nil
    | append_singleton rows last ih =>
      intro a hn hmem
      rw [List.foldl_append, List.foldl_cons, List.foldl_nil]
      rw [List.map_append, List.nodup_append] at hn
      rcases List.mem_append.mp hmem with hold | hlast
      · rw [if_neg, ih a hn.1 hold]
        exact fun heq => hn.2.2 _ (List.mem_map.mpr ⟨row, hold, rfl⟩) _ (by simp) heq.symm
      · rw [List.mem_singleton.mp hlast, if_pos rfl]
  exact key t.rows 0 ht.nodup_basics h

/-- **The basic solution spreads the right-hand sides.** -/
theorem valueAt_eq_spread : t.valueAt = t.spread (·.rhs) := by
  funext j
  by_cases h : j ∈ t.basics
  · obtain ⟨row, hrow, rfl⟩ := List.mem_map.mp h
    rw [ht.valueAt_basic hrow, ht.spread_basic hrow]
  · rw [valueAt_of_notMem h, spread_of_notMem h]

theorem solves_valueAt : t.Solves t.valueAt := fun row hrow => by
  rw [Equation.residual, ht.valueAt_eq_spread, ht.linear_row_spread hrow, sub_self]

/-- **The right-hand side of the price row is the objective at the basic solution.** -/
theorem residual_price_valueAt : t.price.residual t.valueAt = t.value := by
  rw [Equation.residual, ht.valueAt_eq_spread, ht.linear_price_spread, sub_zero]
  rfl

/-- **Only the basic solution solves the rows with all variables outside the basis at
zero.** -/
theorem eq_valueAt_of_solves (hv : t.Solves v) (h0 : ∀ j, j ∉ t.basics → v j = 0) :
    v = t.valueAt := by
  -- such a valuation spreads its own values, so each row reads one of them
  have hspread : ∀ row ∈ t.rows, v row.basic = row.rhs := by
    have hv' : v = t.spread fun row => v row.basic := by
      funext j
      by_cases h : j ∈ t.basics
      · obtain ⟨row, hrow, rfl⟩ := List.mem_map.mp h
        rw [ht.spread_basic hrow]
      · rw [h0 j h, spread_of_notMem h]
    intro row hrow
    have hres := hv row hrow
    rw [Equation.residual, hv', ht.linear_row_spread hrow, sub_eq_zero] at hres
    exact hres.symm
  funext j
  by_cases h : j ∈ t.basics
  · obtain ⟨row, hrow, rfl⟩ := List.mem_map.mp h
    rw [hspread row hrow, ht.valueAt_basic hrow]
  · rw [h0 j h, valueAt_of_notMem h]

/-- **The basic solution depends on the basis alone**, among tableaux that say the
same. -/
theorem valueAt_eq_of_basics (ht' : t'.Canonical) (he : t.Equivalent t')
    (hb : ∀ j, j ∈ t.basics → j ∈ t'.basics) : t.valueAt = t'.valueAt :=
  ht'.eq_valueAt_of_solves ((he.solves_iff _).mpr ht.solves_valueAt)
    fun _ hj => valueAt_of_notMem fun h => hj (hb _ h)

/-- **A pivot in a row whose right-hand side is zero leaves the basic solution where it
is**: of the variables that were not at zero before, none leaves. -/
theorem valueAt_pivot_of_rhs_eq_zero {cell : Cell} (hc : t.Pivotal cell) {row : Row Rat}
    (hrow : t.rows[cell.row]? = some row) (hzero : row.rhs = 0) :
    (t.pivot cell).valueAt = t.valueAt := by
  refine ((ht.pivot hc).eq_valueAt_of_solves
    ((ht.solves_pivot_iff hc _).mpr ht.solves_valueAt)
    fun j hj => ?_).symm
  by_cases hmem : j ∈ t.basics
  · rw [← basic_eq_of_notMem_pivot hrow hmem hj,
      ht.valueAt_basic (List.mem_of_getElem? hrow), hzero]
  · exact valueAt_of_notMem hmem

/-- Tableaux that say the same and have the same basic solution have the same value. -/
theorem value_eq_of_valueAt_eq (ht' : t'.Canonical) (he : t.Equivalent t')
    (h : t.valueAt = t'.valueAt) : t.value = t'.value := by
  rw [← ht.residual_price_valueAt, ← ht'.residual_price_valueAt, ← h,
    he.objective _ ht.solves_valueAt]

end Canonical

/-! ## Edges -/

/-- The direction in which a variable outside the basis grows: the basic variables
follow at the rates in its column. -/
def edge (t : Tableau Rat) (column : Nat) : Nat → Rat :=
  fun j => (if j = column then 1 else 0) + -1 * t.spread (·.coeff column) j

/-- A combination along an edge is the coefficient of the growing variable less what the
basic variables take back. -/
theorem linear_edge (t : Tableau Rat) (column : Nat) (coeffs : List Rat) :
    linear coeffs (t.edge column)
      = coeffs.getD column 0 - linear coeffs (t.spread (·.coeff column)) := by
  unfold edge
  rw [linear_add, linear_smul, linear_single]
  ring

/-- The valuation that an edge reaches from the basic solution. -/
def along (t : Tableau Rat) (column : Nat) (y : Rat) : Nat → Rat :=
  fun j => t.valueAt j + y * t.edge column j

namespace Canonical

variable (ht : t.Canonical)

include ht

/-- **All rows hold along an edge.** -/
theorem solves_along (column : Nat) (y : Rat) :
    t.Solves (t.along column y) := fun row hrow => by
  have h0 : linear row.coeffs (t.edge column) = 0 := by
    rw [linear_edge, ht.linear_row_spread hrow]
    exact sub_self _
  unfold along
  rw [Equation.residual_add_smul, ht.solves_valueAt row hrow, h0, mul_zero, sub_zero]

/-- **Along an edge the objective changes at the rate of the price.** -/
theorem residual_price_along (column : Nat) (y : Rat) :
    t.price.residual (t.along column y) = t.value - y * t.price.coeff column := by
  unfold along
  rw [Equation.residual_add_smul, ht.residual_price_valueAt, linear_edge,
    ht.linear_price_spread, sub_zero]
  rfl

/-- Along an edge a basic variable falls at the rate of its entry in the column. -/
theorem along_basic {row : Row Rat} (h : row ∈ t.rows) {column : Nat}
    (hc : column ∉ t.basics)
    (y : Rat) : t.along column y row.basic = row.rhs - y * row.coeff column := by
  have hne : row.basic ≠ column := fun heq => hc (heq ▸ mem_basics h)
  rw [along, edge, ht.valueAt_basic h, ht.spread_basic h, if_neg hne]
  ring

end Canonical

/-- Along an edge the growing variable has the length that was gone, and the other
variables outside the basis stay at zero. -/
theorem along_of_notMem {j column : Nat} (h : j ∉ t.basics) (y : Rat) :
    t.along column y j = if j = column then y else 0 := by
  rw [along, edge, valueAt_of_notMem h, spread_of_notMem h]
  split <;> ring

end Tableau

end LatticeLP

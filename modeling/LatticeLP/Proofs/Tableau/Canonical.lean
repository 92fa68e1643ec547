import LatticeLP.Proofs.Tableau.Valuation

/-!
# Canonical tableaux

A tableau is worth reading only while each row still *determines* its basic variable:
the column of a basic variable is the unit vector of its row, and the price row does not
mention it. That is the **canonical form**, and it is what makes the right-hand sides a
solution – the **basic solution**, in which the other variables are zero.

A pivot keeps the canonical form at any entry that is not zero, whatever its sign and
whatever made it the choice (`Canonical.pivot`), and it keeps what the tableau says: the
valuations at which all rows hold, and the objective on them
(`Canonical.equivalent_pivot`). The pivots of both phases and those that evict
artificial variables are all of this kind, so nothing more is needed to know what a
tableau means after any number of them.
-/

namespace LatticeLP

namespace Tableau

section Shapes

variable {K : Type} [Scalar K]

/-- The number of columns. -/
def width (t : Tableau K) : Nat :=
  t.firstArtificial + t.artificials

/-- The basic variables, row by row. -/
def basics (t : Tableau K) : List Nat :=
  t.rows.map (·.basic)

/-- **All equations have one width**, and the basic variables are columns. -/
structure Shaped (t : Tableau K) : Prop where
  /-- Each row has a coefficient for every column and no more. -/
  row_width : ∀ row ∈ t.rows, row.coeffs.length = t.width
  /-- So has the price row. -/
  price_width : t.price.coeffs.length = t.width
  /-- Basic variables are columns. -/
  basic_lt : ∀ row ∈ t.rows, row.basic < t.width

/-- The equation that a pivot subtracts multiples of. -/
def pivotRow (row : Row K) (column : Nat) : Equation K :=
  row.toEquation.divide (row.coeff column)

@[simp] theorem length_pivotRow (row : Row K) (column : Nat) :
    (pivotRow row column).coeffs.length = row.coeffs.length :=
  Equation.length_divide _ _

@[simp] theorem width_pivot (t : Tableau K) (cell : Cell) :
    (t.pivot cell).width = t.width := by
  simp [width]

omit [Scalar K] in
@[simp] theorem length_basics (t : Tableau K) : t.basics.length = t.height :=
  List.length_map _

omit [Scalar K] in
theorem mem_basics {t : Tableau K} {row : Row K} (h : row ∈ t.rows) :
    row.basic ∈ t.basics :=
  List.mem_map.mpr ⟨row, h, rfl⟩

omit [Scalar K] in
/-- The basic variables are found by the numbers of their rows. -/
theorem getElem?_basics {t : Tableau K} {i : Nat} {row : Row K}
    (h : t.rows[i]? = some row) :
    t.basics[i]? = some row.basic := by
  rw [basics, List.getElem?_map, h, Option.map_some]

/-- The price row of a pivot. -/
theorem price_pivot {t : Tableau K} {cell : Cell} {row : Row K}
    (h : t.rows[cell.row]? = some row) :
    (t.pivot cell).price = t.price.eliminate cell.column (pivotRow row cell.column) := by
  simp only [pivot, h]
  rfl

/-- The rows of a pivot, one by one. -/
theorem getElem?_pivot {t : Tableau K} {cell : Cell} {row : Row K}
    (h : t.rows[cell.row]? = some row) (i : Nat) :
    (t.pivot cell).rows[i]? = t.rows[i]?.map fun other =>
      if i = cell.row then ⟨pivotRow row cell.column, cell.column⟩
      else ⟨other.toEquation.eliminate cell.column (pivotRow row cell.column),
        other.basic⟩ := by
  simp only [pivot, h, List.getElem?_mapIdx]
  rfl

/-- A row of a pivot is the pivot row or an old row with the entering column
eliminated. -/
theorem exists_of_mem_pivot {t : Tableau K} {cell : Cell} {row new : Row K}
    (h : t.rows[cell.row]? = some row) (hnew : new ∈ (t.pivot cell).rows) :
    ∃ i other, t.rows[i]? = some other ∧ new =
      if i = cell.row then ⟨pivotRow row cell.column, cell.column⟩
      else ⟨other.toEquation.eliminate cell.column (pivotRow row cell.column),
        other.basic⟩ := by
  obtain ⟨i, hi⟩ := List.mem_iff_getElem?.mp hnew
  rw [getElem?_pivot h, Option.map_eq_some_iff] at hi
  obtain ⟨other, hother, heq⟩ := hi
  exact ⟨i, other, hother, heq.symm⟩

/-- **A pivot puts the entering variable in the place of the leaving one.** -/
theorem basics_pivot (t : Tableau K) (cell : Cell) :
    (t.pivot cell).basics = t.basics.set cell.row cell.column := by
  cases h : t.rows[cell.row]? with
  | none =>
    rw [List.set_eq_of_length_le (by simpa [basics] using h)]
    simp only [pivot, h]
  | some row =>
    refine List.ext_getElem? fun i => ?_
    simp only [basics, List.getElem?_map, getElem?_pivot h, List.getElem?_set,
      Option.map_map]
    by_cases hi : cell.row = i
    · subst hi
      simp [(List.getElem?_eq_some_iff.mp h).1]
    · rw [if_neg hi]
      cases t.rows[i]? with
      | none => rfl
      | some other => simp [Ne.symm hi]

/-- What enters is the entering column. -/
theorem mem_basics_of_mem_pivot {t : Tableau K} {cell : Cell} {j : Nat}
    (h : j ∈ (t.pivot cell).basics) : j ∈ t.basics ∨ j = cell.column := by
  rw [basics_pivot] at h
  exact List.mem_or_eq_of_mem_set h

/-- A bound on basic variables that the entering column keeps is kept. -/
theorem basics_pivot_lt {t : Tableau K} {cell : Cell} {n : Nat}
    (h : ∀ b ∈ t.basics, b < n)
    (hc : cell.column < n) : ∀ b ∈ (t.pivot cell).basics, b < n := by
  intro b hb
  rcases mem_basics_of_mem_pivot hb with hold | rfl
  · exact h b hold
  · exact hc

theorem column_mem_basics_pivot {t : Tableau K} {cell : Cell} {row : Row K}
    (hrow : t.rows[cell.row]? = some row) : cell.column ∈ (t.pivot cell).basics := by
  have hlt : cell.row < t.basics.length := by
    rw [length_basics]
    exact (List.getElem?_eq_some_iff.mp hrow).1
  rw [basics_pivot]
  exact List.mem_set hlt cell.column

/-- **What leaves is the basic variable of the leaving row.** -/
theorem basic_eq_of_notMem_pivot {t : Tableau K} {cell : Cell} {row : Row K}
    (hrow : t.rows[cell.row]? = some row) {j : Nat} (h : j ∈ t.basics)
    (h' : j ∉ (t.pivot cell).basics) : row.basic = j := by
  obtain ⟨i, hi⟩ := List.mem_iff_getElem?.mp h
  by_cases heq : cell.row = i
  · subst heq
    exact Option.some.inj ((getElem?_basics hrow).symm.trans hi)
  · refine absurd (List.mem_of_getElem? (i := i) ?_) h'
    rwa [basics_pivot, List.getElem?_set_ne heq]

/-- The rows of a pivot depend on rows alone, and not on the objective. -/
theorem rows_pivot_congr {t t' : Tableau K} (h : t.rows = t'.rows) (cell : Cell) :
    (t.pivot cell).rows = (t'.pivot cell).rows := by
  unfold pivot
  rw [h]
  split <;> simp [h]

/-- A pivot inside the tableau keeps its shape. -/
theorem Shaped.pivot {t : Tableau K} (ht : t.Shaped) {cell : Cell}
    (hc : cell.column < t.width) :
    (t.pivot cell).Shaped := by
  cases h : t.rows[cell.row]? with
  | none =>
    have : t.pivot cell = t := by simp only [Tableau.pivot, h]
    rwa [this]
  | some row =>
    have hrow := ht.row_width row (List.mem_of_getElem? h)
    refine ⟨fun new hnew => ?_, ?_, fun new hnew => ?_⟩
    · obtain ⟨i, other, hother, rfl⟩ := exists_of_mem_pivot h hnew
      have hlen := ht.row_width other (List.mem_of_getElem? hother)
      rw [width_pivot]
      split
      · rw [length_pivotRow, hrow]
      · rw [Equation.length_eliminate _ (by rw [length_pivotRow, hrow, hlen]), hlen]
    · rw [price_pivot h, width_pivot,
        Equation.length_eliminate _ (by rw [length_pivotRow, hrow, ht.price_width]),
        ht.price_width]
    · rw [width_pivot]
      exact basics_pivot_lt (List.forall_mem_map.mpr ht.basic_lt) hc new.basic
        (mem_basics hnew)

end Shapes

variable {t t' : Tableau Rat} {v : Nat → Rat}

/-! ## What a tableau says -/

/-- **All rows hold** at a valuation. -/
def Solves (t : Tableau Rat) (v : Nat → Rat) : Prop :=
  ∀ row ∈ t.rows, row.residual v = 0

/-- **Two tableaux say the same**: their rows hold at the same valuations, and there the
objective has the same value. -/
structure Equivalent (t t' : Tableau Rat) : Prop where
  /-- They have the same decision variables. -/
  decisions : t'.decisions = t.decisions
  /-- They have the same artificial variables. -/
  artificials : t'.artificials = t.artificials
  /-- They have equally many rows. -/
  height : t'.height = t.height
  /-- Their rows hold at the same valuations. -/
  solves_iff : ∀ v, t'.Solves v ↔ t.Solves v
  /-- The objective has the same value where the rows hold. -/
  objective : ∀ v, t.Solves v → t'.price.residual v = t.price.residual v

theorem Equivalent.refl (t : Tableau Rat) : t.Equivalent t :=
  ⟨rfl, rfl, rfl, fun _ => Iff.rfl, fun _ _ => rfl⟩

theorem Equivalent.symm (h : t.Equivalent t') : t'.Equivalent t :=
  ⟨h.decisions.symm, h.artificials.symm, h.height.symm, fun v => (h.solves_iff v).symm,
    fun v hv => (h.objective v ((h.solves_iff v).mp hv)).symm⟩

theorem Equivalent.trans {t'' : Tableau Rat} (h : t.Equivalent t')
    (h' : t'.Equivalent t'') :
    t.Equivalent t'' where
  decisions := h'.decisions.trans h.decisions
  artificials := h'.artificials.trans h.artificials
  height := h'.height.trans h.height
  solves_iff v := (h'.solves_iff v).trans (h.solves_iff v)
  objective v hv := (h'.objective v ((h.solves_iff v).mpr hv)).trans (h.objective v hv)

theorem Equivalent.firstArtificial (h : t.Equivalent t') :
    t'.firstArtificial = t.firstArtificial := by
  rw [Tableau.firstArtificial, h.decisions, h.height, Tableau.firstArtificial]

theorem Equivalent.width (h : t.Equivalent t') : t'.width = t.width := by
  rw [Tableau.width, h.firstArtificial, h.artificials, Tableau.width]

/-- A place with an entry that a pivot can divide by. -/
def Pivotal (t : Tableau Rat) (cell : Cell) : Prop :=
  ∃ row, t.rows[cell.row]? = some row ∧ row.coeff cell.column ≠ 0

theorem coeff_pivotRow_self {row : Row Rat} {column : Nat} (h : row.coeff column ≠ 0) :
    (pivotRow row column).coeff column = 1 := by
  rw [pivotRow, Equation.coeff_divide, div_self h]

/-- **The canonical form**: the column of each basic variable is the unit vector of its
row, and the price row does not mention basic variables. -/
structure Canonical (t : Tableau Rat) : Prop extends Shaped t where
  /-- A basic variable has coefficient one in its own row and zero in the others. -/
  unit : ∀ {i j : Nat} {r s : Row Rat}, t.rows[i]? = some r → t.rows[j]? = some s →
    r.coeff s.basic = if i = j then 1 else 0
  /-- Basic variables have no price. -/
  priced : ∀ row ∈ t.rows, t.price.coeff row.basic = 0

namespace Canonical

variable (ht : t.Canonical)

include ht

theorem coeff_basic {row : Row Rat} (h : row ∈ t.rows) : row.coeff row.basic = 1 := by
  obtain ⟨i, hi⟩ := List.mem_iff_getElem?.mp h
  rw [ht.unit hi hi, if_pos rfl]

/-- **No variable is basic in two rows.** -/
theorem index_eq_of_basic_eq {i j : Nat} {r s : Row Rat} (hr : t.rows[i]? = some r)
    (hs : t.rows[j]? = some s) (h : r.basic = s.basic) : i = j := by
  by_contra hne
  have hunit := ht.unit hr hs
  rw [← h, ht.coeff_basic (List.mem_of_getElem? hr), if_neg hne] at hunit
  exact one_ne_zero hunit

theorem nodup_basics : t.basics.Nodup :=
  List.pairwise_map.mpr (List.pairwise_iff_getElem.mpr fun _ _ hi hj hij heq =>
    hij.ne (ht.index_eq_of_basic_eq (List.getElem?_eq_getElem hi)
      (List.getElem?_eq_getElem hj) heq))

/-- A variable with a price is not basic. -/
theorem notMem_basics_of_price {column : Nat} (h : t.price.coeff column ≠ 0) :
    column ∉ t.basics := by
  intro hmem
  obtain ⟨row, hrow, rfl⟩ := List.mem_map.mp hmem
  exact h (ht.priced row hrow)

/-! ## Pivots -/

/-- The pivot row mentions the entering variable with coefficient one and no other basic
variable. -/
theorem coeff_pivotRow {cell : Cell} {row : Row Rat} (h : t.rows[cell.row]? = some row)
    {j : Nat} {s : Row Rat} (hs : t.rows[j]? = some s) (hj : j ≠ cell.row) :
    (pivotRow row cell.column).coeff s.basic = 0 := by
  rw [pivotRow, Equation.coeff_divide, ht.unit h hs, if_neg (Ne.symm hj), zero_div]

theorem length_eq_pivotRow {cell : Cell} {row other : Row Rat}
    (h : t.rows[cell.row]? = some row) (ho : other ∈ t.rows) :
    other.coeffs.length = (pivotRow row cell.column).coeffs.length := by
  rw [length_pivotRow, ht.row_width other ho, ht.row_width row (List.mem_of_getElem? h)]

theorem price_length_eq_pivotRow {cell : Cell} {row : Row Rat}
    (h : t.rows[cell.row]? = some row) :
    t.price.coeffs.length = (pivotRow row cell.column).coeffs.length := by
  rw [length_pivotRow, ht.price_width, ht.row_width row (List.mem_of_getElem? h)]

/-- **A pivot keeps the canonical form**, at any entry that is not zero. -/
theorem pivot {cell : Cell} (hc : t.Pivotal cell) : (t.pivot cell).Canonical := by
  obtain ⟨row, hrow, ha⟩ := hc
  have hmem := List.mem_of_getElem? hrow
  have hcol : cell.column < t.width :=
    ht.row_width row hmem ▸ Equation.lt_length_of_coeff_ne_zero ha
  refine { ht.toShaped.pivot hcol with
    unit := fun {i j r s} hr hs => ?_
    priced := fun s hs => ?_ }
  · rw [getElem?_pivot hrow, Option.map_eq_some_iff] at hr hs
    obtain ⟨r₀, hr₀, rfl⟩ := hr
    obtain ⟨s₀, hs₀, rfl⟩ := hs
    have hlen := ht.length_eq_pivotRow hrow (List.mem_of_getElem? hr₀)
    -- the pivot row against the others, on both sides
    by_cases hi : i = cell.row <;> by_cases hj : j = cell.row
    · rw [if_pos hi, if_pos hj, if_pos (hi.trans hj.symm)]
      exact coeff_pivotRow_self ha
    · rw [if_pos hi, if_neg hj, if_neg fun h : i = j => hj (h ▸ hi)]
      show (pivotRow row cell.column).coeff s₀.basic = 0
      exact ht.coeff_pivotRow hrow hs₀ hj
    · rw [if_neg hi, if_pos hj, if_neg fun h : i = j => hi (h ▸ hj)]
      show (r₀.toEquation.eliminate _ _).coeff _ = 0
      rw [Equation.coeff_eliminate _ hlen, coeff_pivotRow_self ha, mul_one, sub_self]
    · rw [if_neg hi, if_neg hj]
      show (r₀.toEquation.eliminate _ _).coeff _ = _
      rw [Equation.coeff_eliminate _ hlen, ht.coeff_pivotRow hrow hs₀ hj,
        mul_zero, sub_zero, ht.unit hr₀ hs₀]
  · obtain ⟨j, s₀, hs₀, rfl⟩ := exists_of_mem_pivot hrow hs
    rw [price_pivot hrow, Equation.coeff_eliminate _ (ht.price_length_eq_pivotRow hrow)]
    by_cases hj : j = cell.row
    · rw [if_pos hj, coeff_pivotRow_self ha, mul_one, sub_self]
    · rw [if_neg hj, ht.coeff_pivotRow hrow hs₀ hj, mul_zero, sub_zero]
      exact ht.priced s₀ (List.mem_of_getElem? hs₀)

/-- The rows of a pivot hold exactly where the rows hold: each row operation can be
undone. -/
theorem solves_pivot_iff {cell : Cell} (hc : t.Pivotal cell) (v : Nat → Rat) :
    (t.pivot cell).Solves v ↔ t.Solves v := by
  obtain ⟨row, hrow, ha⟩ := hc
  have hp : (pivotRow row cell.column).residual v
      = row.residual v / row.coeff cell.column :=
    Equation.residual_divide _ _ _
  constructor
  · intro h
    have hrow0 : row.residual v = 0 := by
      have hnew := h ⟨pivotRow row cell.column, cell.column⟩
        (List.mem_of_getElem?
          (by rw [getElem?_pivot hrow, hrow, Option.map_some, if_pos rfl]))
      rw [show (pivotRow row cell.column).residual v = 0 from hnew, eq_comm,
        div_eq_zero_iff] at hp
      exact hp.resolve_right ha
    intro other hother
    obtain ⟨i, hi⟩ := List.mem_iff_getElem?.mp hother
    by_cases hrowi : i = cell.row
    · subst hrowi
      rw [hrow] at hi
      exact Option.some.inj hi ▸ hrow0
    · have hnew :=
        h ⟨other.toEquation.eliminate cell.column (pivotRow row cell.column), other.basic⟩
          (List.mem_of_getElem?
            (by rw [getElem?_pivot hrow, hi, Option.map_some, if_neg hrowi]))
      rw [Equation.residual_eliminate _ (ht.length_eq_pivotRow hrow hother), hp,
        hrow0, zero_div, mul_zero, sub_zero] at hnew
      exact hnew
  · intro h new hnew
    have hrow0 := h row (List.mem_of_getElem? hrow)
    obtain ⟨i, other, hother, rfl⟩ := exists_of_mem_pivot hrow hnew
    split
    · show (pivotRow row cell.column).residual v = 0
      rw [hp, hrow0, zero_div]
    · show (other.toEquation.eliminate _ _).residual v = 0
      rw [Equation.residual_eliminate _
        (ht.length_eq_pivotRow hrow (List.mem_of_getElem? hother)),
        hp, hrow0, h other (List.mem_of_getElem? hother), zero_div, mul_zero, sub_zero]

/-- **A pivot keeps what the tableau says.** -/
theorem equivalent_pivot {cell : Cell} (hc : t.Pivotal cell) :
    t.Equivalent (t.pivot cell) where
  decisions := decisions_pivot t cell
  artificials := artificials_pivot t cell
  height := height_pivot t cell
  solves_iff := ht.solves_pivot_iff hc
  objective v hv := by
    obtain ⟨row, hrow, ha⟩ := hc
    rw [price_pivot hrow,
      Equation.residual_eliminate _ (ht.price_length_eq_pivotRow hrow),
      pivotRow, Equation.residual_divide, hv row (List.mem_of_getElem? hrow),
      zero_div, mul_zero,
      sub_zero]

end Canonical

end Tableau

end LatticeLP

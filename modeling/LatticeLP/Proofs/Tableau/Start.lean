import LatticeLP.Proofs.Tableau.Canonical
import LatticeLP.Tableau.Basic

/-!
# The tableau of a program

What a fresh tableau says about its program. Its row for the constraint `a·x ≤ b` reads
`a·x + s - b = r`, where `s` is the slack variable and `r` the artificial variable of
the row, which is there only if `b` is negative (`solves_start_iff`); the sign with
which the row is stored drops out.

Its shape is a matter of counting, in any arithmetic (`shaped_start`): there are as many
artificial variables as negative bounds, and no two rows have the same one.

Three things follow. A fresh tableau is in canonical form with non-negative right-hand
sides. A choice of decision and artificial variables extends to a solution of the rows
in one way, because the slack variables can absorb anything (`solves_completion`). And
the solutions without negative values and with artificial variables at zero are exactly
the feasible points (`exists_admits_of_denseFeasible`, `denseFeasible_of_admits`).
-/

namespace LatticeLP

/-! ## Programs in dense form -/

/-- The inner product of two lists. -/
def dot (c x : List Rat) : Rat :=
  (List.zipWith (fun a b => a * b) c x).sum

/-- **A point of a program in dense form**: it satisfies `A x ≤ b` row by row, and
`x ≥ 0`. -/
structure DenseFeasible (decisions : Nat) (matrix : List (List Rat)) (bounds : List Rat)
    (x : List Rat) : Prop where
  /-- The point has one coordinate per decision variable. -/
  length : x.length = decisions
  /-- No coordinate is negative. -/
  nonneg : ∀ a ∈ x, 0 ≤ a
  /-- Each row is at most its bound. -/
  le : List.Forall₂ (fun row bound => dot row x ≤ bound) matrix bounds

/-- An inner product is a linear combination, and what one list lacks reads as zero. -/
theorem dot_eq_linear (c x : List Rat) : dot c x = linear c fun j => x.getD j 0 := by
  unfold dot linear
  induction c generalizing x with
  | nil => simp
  | cons a c ih =>
    rw [List.length_cons, Finset.sum_range_succ']
    cases x with
    | nil => simp
    | cons b x =>
      rw [List.zipWith_cons_cons, List.sum_cons, ih x, add_comm]
      rfl

theorem dot_map_range {c : List Rat} {n : Nat} (h : c.length = n) (v : Nat → Rat) :
    dot c ((List.range n).map v) = linear c v := by
  rw [dot_eq_linear]
  refine linear_congr fun j hj => ?_
  simp [h ▸ hj]

namespace Tableau

/-- The matrix and the bounds of a program as one list of equations. -/
theorem denseFeasible_iff {n : Nat} {matrix : List (List Rat)} {bounds x : List Rat}
    (h : matrix.length = bounds.length) :
    DenseFeasible n matrix bounds x ↔ x.length = n ∧ (∀ a ∈ x, 0 ≤ a) ∧
      ∀ e ∈ List.zipWith Equation.mk matrix bounds, dot e.coeffs x ≤ e.rhs := by
  have key : List.Forall₂ (fun row bound => dot row x ≤ bound) matrix bounds
      ↔ ∀ e ∈ List.zipWith Equation.mk matrix bounds, dot e.coeffs x ≤ e.rhs := by
    induction matrix generalizing bounds with
    | nil =>
      cases bounds with
      | nil => simp
      | cons _ _ => simp at h
    | cons row matrix ih =>
      cases bounds with
      | nil => simp at h
      | cons bound bounds =>
        rw [List.forall₂_cons, ih (by simpa using h)]
        simp
  exact ⟨fun hx => ⟨hx.length, hx.nonneg, key.mp hx.le⟩,
    fun hx => ⟨hx.1, hx.2.1, key.mpr hx.2.2⟩⟩

/-! ## The shape of a fresh tableau

Widths, ranks and basic variables are a matter of counting, whatever the numbers are. -/

section Shape

variable {K : Type} [Scalar K] {objective bounds : List K} {matrix : List (List K)}
  {system : List (Equation K)} {e f : Equation K} {n m k i j rank : Nat}

/-- **The dense form is accepted exactly when it has the shape of a program.** -/
theorem ofDense?_eq_ok_iff {t : Tableau K} :
    ofDense? objective matrix bounds = .ok t ↔
      matrix.length = bounds.length ∧ (∀ row ∈ matrix, row.length = objective.length) ∧
        t = start objective (List.zipWith Equation.mk matrix bounds) := by
  unfold ofDense?
  split
  · next hlen =>
    split
    · next row index hfind =>
      have hbad := List.find?_some hfind
      have hmem := List.mem_of_find?_eq_some hfind
      simp only [reduceCtorEq, false_iff, not_and]
      intro _ hrows _
      have := hrows row (List.fst_mem_of_mem_zipIdx hmem)
      simp [this] at hbad
    · next hfind =>
      have hrows : ∀ row ∈ matrix, row.length = objective.length := by
        intro row hrow
        obtain ⟨i, hi⟩ := List.mem_iff_getElem?.mp hrow
        have :=
          List.find?_eq_none.mp hfind (row, i) (List.mk_mem_zipIdx_iff_getElem?.mpr hi)
        simpa using this
      simp only [Except.ok.injEq, hlen, true_and]
      exact ⟨fun h => ⟨hrows, h.symm⟩, fun h => h.2.symm⟩
  · next hlen => simp [hlen]

theorem length_of_mem_zipWith {t : Tableau K}
    (shape : ofDense? objective matrix bounds = .ok t)
    (he : e ∈ List.zipWith Equation.mk matrix bounds) :
    e.coeffs.length = objective.length := by
  obtain ⟨_, hrows, _⟩ := ofDense?_eq_ok_iff.mp shape
  rw [List.zipWith_eq_zipWith_take_min, ← List.map_uncurry_zip_eq_zipWith] at he
  obtain ⟨⟨row, bound⟩, hmem, rfl⟩ := List.mem_map.mp he
  exact hrows row (List.mem_of_mem_take (List.of_mem_zip hmem).1)

/-! ### Ranks of artificial variables -/

theorem negatives_take_succ (h : system[i]? = some e) :
    negatives (system.take (i + 1)) = negatives (system.take i) + if e.rhs < 0 then 1
      else 0 := by
  unfold negatives
  rw [List.take_add_one, h, List.countP_append]
  by_cases he : e.rhs < 0 <;> simp [he]

theorem negatives_take_lt (h : system[i]? = some e) (he : e.rhs < 0) (hij : i < j) :
    negatives (system.take i) < negatives (system.take j) := by
  have hnext : negatives (system.take (i + 1)) = negatives (system.take i) + 1 := by
    rw [negatives_take_succ h, if_pos he]
  have hmono : negatives (system.take (i + 1)) ≤ negatives (system.take j) :=
    (List.take_sublist_take_left (by omega)).countP_le
  omega

/-- The artificial variables of a tableau are as many as there are ranks. -/
theorem negatives_take_lt_negatives (h : system[i]? = some e) (he : e.rhs < 0) :
    negatives (system.take i) < negatives system := by
  have := negatives_take_lt h he (List.getElem?_eq_some_iff.mp h).1
  rwa [List.take_length] at this

/-- **Different rows have artificial variables of different rank.** -/
theorem eq_of_negatives_take_eq (hi : system[i]? = some e) (hj : system[j]? = some f)
    (he : e.rhs < 0)
    (hf : f.rhs < 0) (h : negatives (system.take i) = negatives (system.take j)) :
    i = j := by
  rcases lt_trichotomy i j with hlt | heq | hgt
  · exact absurd h (negatives_take_lt hi he hlt).ne
  · exact heq
  · exact absurd h.symm (negatives_take_lt hj hf hgt).ne

/-- A program has as many artificial variables as negative bounds. -/
theorem negatives_zipWith (h : matrix.length = bounds.length) :
    negatives (List.zipWith Equation.mk matrix bounds) = bounds.countP (· < 0) := by
  conv_rhs => rw [← List.map_snd_zip h.ge, List.countP_map]
  rw [negatives, ← List.map_uncurry_zip_eq_zipWith, List.countP_map]
  rfl

/-! ### Rows -/

theorem length_startRow :
    (startRow n m k i rank e).coeffs.length = e.coeffs.length + m + k := by
  by_cases h : e.rhs < 0 <;> simp [startRow, unitList, h, Nat.add_assoc]

theorem basic_startRow :
    (startRow n m k i rank e).basic = if e.rhs < 0 then n + m + rank else n + i := by
  simp [startRow]

theorem getElem?_start (i : Nat) :
    (start objective system).rows[i]? = system[i]?.map fun e =>
      startRow objective.length system.length (negatives system) i
        (negatives (system.take i)) e := by
  simp [start, List.getElem?_zipIdx, Function.comp_def]

/-- A row of a fresh tableau is the row of a constraint. -/
theorem exists_of_mem_start {row : Row K} (h : row ∈ (start objective system).rows) :
    ∃ i e, system[i]? = some e ∧
      row = startRow objective.length system.length (negatives system) i
      (negatives (system.take i)) e := by
  obtain ⟨i, hi⟩ := List.mem_iff_getElem?.mp h
  rw [getElem?_start, Option.map_eq_some_iff] at hi
  obtain ⟨e, he, heq⟩ := hi
  exact ⟨i, e, he, heq.symm⟩

@[simp] theorem height_start : (start objective system).height = system.length := by
  simp [start, height]

@[simp] theorem firstArtificial_start :
    (start objective system).firstArtificial = objective.length + system.length := by
  rw [firstArtificial, height_start]
  rfl

@[simp] theorem width_start :
    (start objective system).width
      = objective.length + system.length + negatives system := by
  rw [width, firstArtificial_start]
  rfl

/-- **All rows of a fresh tableau have its width**, and slack and artificial variables
are basic. -/
theorem shaped_start (hsys : ∀ e ∈ system, e.coeffs.length = objective.length) :
    (start objective system).Shaped := by
  refine ⟨fun row hrow => ?_, ?_, fun row hrow => ?_⟩
  · obtain ⟨i, e, he, rfl⟩ := exists_of_mem_start hrow
    rw [length_startRow, hsys e (List.mem_of_getElem? he), width_start]
  · rw [width_start, Nat.add_assoc]
    simp [start]
  · obtain ⟨i, e, he, rfl⟩ := exists_of_mem_start hrow
    have hi := (List.getElem?_eq_some_iff.mp he).1
    rw [basic_startRow, width_start]
    split
    · next hneg => have := negatives_take_lt_negatives he hneg; omega
    · omega

end Shape

/-! ## The rows of a fresh tableau -/

theorem getD_unitList {length position : Nat} (value : Rat) {j : Nat} (h : j < length) :
    (unitList length position value).getD j 0 = if j = position then value else 0 := by
  simp [unitList, h]

theorem linear_unitList {length position : Nat} (value : Rat) (h : position < length)
    (v : Nat → Rat) : linear (unitList length position value) v = value * v position := by
  rw [linear, Finset.sum_eq_single position]
  · rw [getD_unitList value h, if_pos rfl]
  · intro j hj hne
    rw [getD_unitList value (by simpa [unitList] using hj), if_neg hne, zero_mul]
  · intro hout
    exact absurd (Finset.mem_range.mpr (by simpa [unitList] using h)) hout

section StartRow

variable {n m k i rank : Nat} {e : Equation Rat}

theorem rhs_startRow_nonneg : 0 ≤ (startRow n m k i rank e).rhs := by
  unfold startRow
  by_cases h : e.rhs < 0 <;> simp [h] <;> linarith

/-- The column of a slack variable. -/
theorem coeff_startRow_slack (he : e.coeffs.length = n) {j : Nat} (hj : j < m) :
    (startRow n m k i rank e).coeff (n + j)
      = if j = i then (if e.rhs < 0 then -1 else 1) else 0 := by
  unfold startRow Equation.coeff
  simp only [decide_eq_true_eq, List.append_assoc]
  rw [List.getD_append_right _ _ _ _ (by simp [he]), List.length_map, he,
    Nat.add_sub_cancel_left,
    List.getD_append _ _ _ _ (by simpa [unitList] using hj), getD_unitList _ hj]

/-- The column of an artificial variable. -/
theorem coeff_startRow_artificial (he : e.coeffs.length = n) {r : Nat} (hr : r < k) :
    (startRow n m k i rank e).coeff (n + m + r)
      = if e.rhs < 0 ∧ r = rank then 1 else 0 := by
  unfold startRow Equation.coeff
  simp only [decide_eq_true_eq]
  rw [List.getD_append_right _ _ _ _ (by simp [he, unitList]), List.length_append,
    List.length_map,
    he, show (unitList m i (if e.rhs < 0 then (-1 : Rat) else 1)).length = m by
      simp [unitList],
    Nat.add_sub_cancel_left]
  by_cases h : e.rhs < 0
  · rw [if_pos h, getD_unitList _ hr]
    simp [h]
  · rw [if_neg h]
    simp [h, hr]

/-- **The residual of a fresh row** is that of its constraint with a slack variable, up
to the sign of the row, less the artificial variable if the row has one. -/
theorem residual_startRow (he : e.coeffs.length = n) (hi : i < m)
    (hrank : e.rhs < 0 → rank < k) (v : Nat → Rat) :
    (startRow n m k i rank e).residual v
      = (if e.rhs < 0 then -1 else 1) * (e.rhs - linear e.coeffs v - v (n + i))
        - (if e.rhs < 0 then v (n + m + rank) else 0) := by
  unfold startRow Equation.residual
  simp only [decide_eq_true_eq]
  rw [linear_append, linear_append, linear_map_mul, linear_unitList _ hi,
    List.length_append,
    List.length_map, he,
    show (unitList m i (if e.rhs < 0 then (-1 : Rat) else 1)).length = m by
      simp [unitList]]
  by_cases h : e.rhs < 0
  · simp only [if_pos h]
    rw [linear_unitList _ (hrank h)]
    ring
  · simp only [if_neg h]
    rw [linear_replicate_zero]
    ring

end StartRow

variable {objective : List Rat} {system : List (Equation Rat)}

/-- **The price row of a fresh tableau is the objective.** -/
theorem residual_price_start (v : Nat → Rat) :
    (start objective system).price.residual v = linear objective v := by
  show 0 - linear (objective.map (- ·) ++ List.replicate _ 0) v = _
  rw [linear_append, linear_replicate_zero,
    show objective.map (- ·) = objective.map (-1 * ·) from
      List.map_congr_left fun a _ => by ring,
    linear_map_mul]
  ring

theorem rhs_start_nonneg : ∀ row ∈ (start objective system).rows, 0 ≤ row.rhs := by
  intro row hrow
  obtain ⟨i, e, _, rfl⟩ := exists_of_mem_start hrow
  exact rhs_startRow_nonneg

section Program

variable (hsys : ∀ e ∈ system, e.coeffs.length = objective.length)

include hsys

/-- The column of a basic variable of a fresh tableau is the unit vector of its row,
whether the variable is a slack or an artificial one. -/
theorem unit_start {i j : Nat} {r s : Row Rat}
    (hr : (start objective system).rows[i]? = some r)
    (hs : (start objective system).rows[j]? = some s) :
    r.coeff s.basic = if i = j then 1 else 0 := by
  rw [getElem?_start, Option.map_eq_some_iff] at hr hs
  obtain ⟨e, he, rfl⟩ := hr
  obtain ⟨f, hf, rfl⟩ := hs
  have hn := hsys e (List.mem_of_getElem? he)
  rw [basic_startRow]
  by_cases hneg : f.rhs < 0
  · rw [if_pos hneg, coeff_startRow_artificial hn (negatives_take_lt_negatives hf hneg)]
    by_cases hij : i = j
    · subst hij
      obtain rfl : e = f := Option.some.inj (he.symm.trans hf)
      rw [if_pos ⟨hneg, rfl⟩, if_pos rfl]
    · rw [if_neg hij, if_neg]
      exact fun h => hij (eq_of_negatives_take_eq he hf h.1 hneg h.2.symm)
  · rw [if_neg hneg, coeff_startRow_slack hn (List.getElem?_eq_some_iff.mp hf).1]
    by_cases hij : i = j
    · subst hij
      obtain rfl : e = f := Option.some.inj (he.symm.trans hf)
      rw [if_pos rfl, if_pos rfl, if_neg hneg]
    · rw [if_neg hij, if_neg (Ne.symm hij)]

/-- **A fresh tableau is in canonical form**: where the bound is negative the artificial
variable is basic, and elsewhere the slack variable. -/
theorem canonical_start : (start objective system).Canonical := by
  refine { shaped_start hsys with unit := unit_start hsys, priced := fun row hrow => ?_ }
  · obtain ⟨i, e, he, rfl⟩ := exists_of_mem_start hrow
    have hge : objective.length
      ≤ (startRow objective.length system.length (negatives system) i
        (negatives (system.take i)) e).basic := by
      rw [basic_startRow]
      split <;> omega
    show (objective.map (- ·) ++ List.replicate _ 0).getD _ 0 = 0
    rw [List.getD_append_right _ _ _ _ (by simpa using hge)]
    simp

/-! ## Solutions of a fresh tableau -/

/-- **What the rows of a fresh tableau say**: each constraint with its slack variable
exceeds its bound by its artificial variable, and not at all if it has none. -/
theorem solves_start_iff (v : Nat → Rat) :
    (start objective system).Solves v ↔ ∀ i e, system[i]? = some e →
      linear e.coeffs v + v (objective.length + i) - e.rhs =
        if e.rhs < 0 then v (objective.length + system.length + negatives (system.take i))
          else 0 := by
  have hres : ∀ i e, system[i]? = some e →
      ((startRow objective.length system.length (negatives system) i
          (negatives (system.take i)) e).residual v = 0 ↔
        linear e.coeffs v + v (objective.length + i) - e.rhs =
          if e.rhs < 0
            then v (objective.length + system.length + negatives (system.take i))
          else 0) := by
    intro i e he
    rw [residual_startRow (hsys e (List.mem_of_getElem? he))
      (List.getElem?_eq_some_iff.mp he).1
      (negatives_take_lt_negatives he)]
    by_cases hneg : e.rhs < 0
    · simp only [if_pos hneg]
      constructor <;> intro h <;> linarith
    · simp only [if_neg hneg]
      constructor <;> intro h <;> linarith
  constructor
  · intro h i e he
    exact (hres i e he).mp
      (h _ (List.mem_of_getElem? (by rw [getElem?_start, he, Option.map_some])))
  · intro h row hrow
    obtain ⟨i, e, he, rfl⟩ := exists_of_mem_start hrow
    exact (hres i e he).mpr (h i e he)

omit hsys in
/-- The valuation with given decision variables `x` and artificial variables `a` in
which each slack variable is what its row leaves. -/
def completion (objective : List Rat) (system : List (Equation Rat)) (x a : Nat → Rat) :
    Nat → Rat :=
  fun j =>
    if j < objective.length then x j
    else match system[j - objective.length]? with
      | some e => e.rhs - linear e.coeffs x + if e.rhs < 0 then
          a (objective.length + system.length
            + negatives (system.take (j - objective.length))) else 0
      | none => a j

omit hsys in
theorem completion_decision {j : Nat} (h : j < objective.length) (x a : Nat → Rat) :
    completion objective system x a j = x j :=
  if_pos h

omit hsys in
theorem completion_slack {i : Nat} {e : Equation Rat} (h : system[i]? = some e)
    (x a : Nat → Rat) :
    completion objective system x a (objective.length + i)
      = e.rhs - linear e.coeffs x + if e.rhs < 0 then
          a (objective.length + system.length + negatives (system.take i)) else 0 := by
  simp [completion, h]

omit hsys in
theorem completion_artificial {j : Nat} (h : objective.length + system.length ≤ j)
    (x a : Nat → Rat) : completion objective system x a j = a j := by
  have hnone : system[j - objective.length]? = none := List.getElem?_eq_none (by omega)
  simp only [completion, if_neg (show ¬ j < objective.length by omega), hnone]

/-- **Any decision and artificial variables extend to a solution**: the slack variables
absorb the difference. -/
theorem solves_completion (x a : Nat → Rat) :
    (start objective system).Solves (completion objective system x a) := by
  rw [solves_start_iff hsys]
  intro i e he
  have hlin : linear e.coeffs (completion objective system x a) = linear e.coeffs x :=
    linear_congr fun j hj =>
      completion_decision (by rwa [← hsys e (List.mem_of_getElem? he)]) x a
  rw [hlin, completion_slack he, completion_artificial (Nat.le_add_right _ _)]
  ring

end Program

/-! ## Feasible points

A valuation is **admissible** if the rows hold, no variable is negative and all
artificial variables are zero. Admissible valuations and feasible points are the same
thing, and the objective agrees on them. -/

/-- A solution of the rows without negative values that leaves the artificial variables
at zero. -/
structure Admits (t : Tableau Rat) (v : Nat → Rat) : Prop where
  /-- The rows hold. -/
  solves : t.Solves v
  /-- No variable is negative. -/
  nonneg : ∀ j, 0 ≤ v j
  /-- Artificial variables are zero. -/
  clear : ∀ j, t.firstArtificial ≤ j → v j = 0

theorem Equivalent.admits_iff {t t' : Tableau Rat} (h : t.Equivalent t') (v : Nat → Rat) :
    t'.Admits v ↔ t.Admits v :=
  ⟨fun hv => ⟨(h.solves_iff v).mp hv.solves, hv.nonneg, h.firstArtificial ▸ hv.clear⟩,
    fun hv =>
      ⟨(h.solves_iff v).mpr hv.solves, hv.nonneg, h.firstArtificial.symm ▸ hv.clear⟩⟩

section Dense

variable {matrix : List (List Rat)} {bounds : List Rat} {t : Tableau Rat}
  (shape : ofDense? objective matrix bounds = .ok t)

include shape

/-- **Every feasible point is an admissible valuation**, whose decision variables are
its coordinates, with the same objective. -/
theorem exists_admits_of_denseFeasible {x : List Rat}
    (hx : DenseFeasible objective.length matrix bounds x) :
    ∃ v, t.Admits v ∧ (∀ j < objective.length, v j = x.getD j 0) ∧
      t.price.residual v = dot objective x := by
  have hsys := fun e he => length_of_mem_zipWith shape (e := e) he
  obtain ⟨hlen, _, rfl⟩ := ofDense?_eq_ok_iff.mp shape
  obtain ⟨hxlen, hxpos, hxle⟩ := (denseFeasible_iff hlen).mp hx
  have hpos : ∀ j, 0 ≤ x.getD j 0 := by
    intro j
    rcases lt_or_ge j x.length with hj | hj
    · rw [List.getD_eq_getElem _ _ hj]
      exact hxpos _ (List.getElem_mem hj)
    · rw [List.getD_eq_default _ _ hj]
  refine ⟨completion objective (List.zipWith Equation.mk matrix bounds)
    (x.getD · 0) fun _ => 0, ⟨solves_completion hsys _ _, fun j => ?_, fun j hj => ?_⟩,
    fun j hj => completion_decision hj _ _, ?_⟩
  · rcases lt_or_ge j objective.length with hj | hj
    · rw [completion_decision hj]
      exact hpos j
    · obtain ⟨i, rfl⟩ := Nat.exists_eq_add_of_le hj
      cases he : (List.zipWith Equation.mk matrix bounds)[i]? with
      | none =>
        rw [completion_artificial
          (Nat.add_le_add_left (List.getElem?_eq_none_iff.mp he) _)]
      | some e =>
        have := hxle e (List.mem_of_getElem? he)
        rw [completion_slack he, ← dot_eq_linear, ite_self]
        linarith
  · exact completion_artificial (firstArtificial_start (K := Rat) ▸ hj) _ _
  · rw [residual_price_start, dot_eq_linear]
    exact linear_congr fun j hj => completion_decision hj _ _

/-- **The decision variables of an admissible valuation are a feasible point** with the
same objective. -/
theorem denseFeasible_of_admits {v : Nat → Rat} (hv : t.Admits v) :
    DenseFeasible objective.length matrix bounds ((List.range t.decisions).map v) ∧
      dot objective ((List.range t.decisions).map v) = t.price.residual v := by
  have hsys := fun e he => length_of_mem_zipWith shape (e := e) he
  obtain ⟨hlen, _, rfl⟩ := ofDense?_eq_ok_iff.mp shape
  have hdec : (start objective (List.zipWith Equation.mk matrix bounds)).decisions
      = objective.length := rfl
  rw [hdec]
  refine ⟨(denseFeasible_iff hlen).mpr ⟨by simp, fun a ha => ?_, fun e he => ?_⟩, ?_⟩
  · obtain ⟨j, _, rfl⟩ := List.mem_map.mp ha
    exact hv.nonneg j
  · obtain ⟨i, hi⟩ := List.mem_iff_getElem?.mp he
    have hrow := (solves_start_iff hsys v).mp hv.solves i e hi
    have hclear : ∀ rank, v (objective.length
        + (List.zipWith Equation.mk matrix bounds).length + rank) = 0 :=
      fun rank => hv.clear _ (firstArtificial_start (K := Rat) ▸ Nat.le_add_right _ rank)
    rw [hclear, ite_self] at hrow
    have hslack := hv.nonneg (objective.length + i)
    rw [dot_map_range (hsys e he)]
    linarith
  · rw [dot_map_range rfl, residual_price_start]

end Dense

end Tableau

end LatticeLP

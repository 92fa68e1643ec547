import LatticeLP.Proofs.Tableau.Reachable

/-!
# What one phase hands over to the other

A first phase that brings the shortfall to zero has found a vertex, and the second phase
sets out from this vertex. In between artificial variables are evicted, and the pivots
that do so heed no ratio: their entries may have either sign. This module proves that
they exchange names and move nothing. The row of such a pivot has a right-hand side of
zero, so all right-hand sides stay as they are, and the value and the basic solution
with them (`Settled.sameVertex_pivots`).

Eviction is complete as well. At none of its tableaux there is a row that mentions
artificial variables only (`Free.throughout_irredundant`), and so none that keeps its
own. The second phase lets no artificial variable enter, and the basis stays clear of
them until its end (`Clear.throughout`).
-/

namespace LatticeLP

namespace Tableau

variable {t t' t'' : Tableau Rat} {cell : Cell} {cells : List Cell}

/-- **No row is redundant**: each mentions a variable that is not artificial. -/
def Irredundant (t : Tableau Rat) : Prop :=
  ∀ row ∈ t.rows, ∃ j < t.firstArtificial, row.coeff j ≠ 0

/-- **No artificial variable is basic.** -/
def Clear (t : Tableau Rat) : Prop :=
  ∀ b ∈ t.basics, b < t.firstArtificial

/-- **Two tableaux stand at the same vertex**, with the same numbers in their last
columns. -/
structure SameVertex (t t' : Tableau Rat) : Prop where
  /-- The right-hand sides are the same, row by row. -/
  rhs_eq : t'.rows.map (·.rhs) = t.rows.map (·.rhs)
  /-- So is the value of the objective. -/
  value_eq : t'.value = t.value
  /-- All variables have the same values. -/
  valueAt_eq : t'.valueAt = t.valueAt

theorem SameVertex.refl (t : Tableau Rat) : t.SameVertex t :=
  ⟨rfl, rfl, rfl⟩

theorem SameVertex.trans (h : t.SameVertex t') (h' : t'.SameVertex t'') :
    t.SameVertex t'' :=
  ⟨h'.rhs_eq.trans h.rhs_eq, h'.value_eq.trans h.value_eq,
    h'.valueAt_eq.trans h.valueAt_eq⟩

/-! ## Eviction -/

/-- The row of an eviction has a right-hand side of zero. -/
theorem Settled.exists_row (hs : t.Settled) (hc : EvictionStep 0 t cell) :
    ∃ row, t.rows[cell.row]? = some row ∧ row.rhs = 0 := by
  obtain ⟨row, hrow, hge, _⟩ := eviction?_eq_some_iff.mp hc
  exact ⟨row, hrow, hs row (List.mem_of_getElem? hrow) hge⟩

/-- **A pivot that evicts from a settled tableau stays at the vertex.** -/
theorem Settled.sameVertex_pivot (hs : t.Settled) (ht : t.Canonical)
    (hc : EvictionStep 0 t cell) :
    t.SameVertex (t.pivot cell) := by
  obtain ⟨row, hrow, hzero⟩ := hs.exists_row hc
  have hpivotal := hc.pivotal le_rfl
  have hvalueAt := ht.valueAt_pivot_of_rhs_eq_zero hpivotal hrow hzero
  have hpivotRow : (pivotRow row cell.column).rhs = 0 := by
    show row.rhs / row.coeff cell.column = 0
    rw [hzero, zero_div]
  refine ⟨List.ext_getElem? fun i => ?_, ?_, hvalueAt⟩
  · rw [List.getElem?_map, List.getElem?_map, getElem?_pivot hrow, Option.map_map]
    refine Option.map_congr fun other hother => ?_
    show (if i = cell.row then (_ : Row Rat) else _).rhs = other.rhs
    split
    · next hi =>
      -- the pivot row itself, divided by its entry
      obtain rfl : other = row := by
        rw [hi, hrow] at hother
        exact (Option.some.inj hother).symm
      exact hpivotRow.trans hzero.symm
    · show (other.toEquation.eliminate _ _).rhs = other.rhs
      rw [Equation.rhs_eliminate _
        (ht.length_eq_pivotRow hrow (List.mem_of_getElem? hother)), hpivotRow,
        mul_zero, sub_zero]
  · exact (ht.value_eq_of_valueAt_eq (ht.pivot hpivotal)
      (ht.equivalent_pivot hpivotal) hvalueAt.symm).symm

/-- **A run of evictions from a settled tableau stays at the vertex.** -/
theorem Settled.sameVertex_pivots (hs : t.Settled) (ht : t.Canonical)
    (h : t.Follows (EvictionStep 0) cells) : t.SameVertex (t.pivots cells) :=
  (h.invariant (P := fun s => (s.Canonical ∧ s.Settled) ∧ t.SameVertex s)
    (fun _ _ hP hc => ⟨⟨hP.1.1.pivot (hc.pivotal le_rfl), hP.1.2.pivot hP.1.1 hc⟩,
      hP.2.trans (hP.1.2.sameVertex_pivot hP.1.1 hc)⟩)
    ⟨⟨ht, hs⟩, SameVertex.refl t⟩).2

/-- **No tableau of an eviction has a redundant row**, where artificial variables may
take any values. -/
theorem Free.throughout_irredundant (hf : t.Free) (ht : t.Canonical)
    (h : t.Follows (EvictionStep 0) cells) : t.Throughout Irredundant cells :=
  (h.throughout (P := fun s => s.Canonical ∧ s.Free)
    (fun _ _ hP hc => ⟨hP.1.pivot (hc.pivotal le_rfl),
      (hP.1.equivalent_pivot (hc.pivotal le_rfl)).free hP.2⟩)
    ⟨ht, hf⟩).imp fun _ hs _ hrow => hs.2.exists_coeff_ne_zero hs.1 hrow

/-! ## The second phase -/

/-- **Pivots in front of the artificial columns bring no artificial variable back.** -/
theorem Clear.throughout {tolerance : Rat} (hc : t.Clear)
    (h : t.Follows (BlandStep t.firstArtificial tolerance) cells) :
    t.Throughout Clear cells :=
  (h.throughout (P := fun s => s.firstArtificial = t.firstArtificial ∧ s.Clear)
    (fun s cell hP hstep => ⟨(firstArtificial_pivot s cell).trans hP.1, by
      rw [Clear, firstArtificial_pivot]
      exact basics_pivot_lt hP.2 (hP.1 ▸ (entering?_eq_some hstep.1).1)⟩)
    ⟨rfl, hc⟩).imp fun _ hP => hP.2

/-! ## The whole -/

/-- **Between the phases every artificial variable is evicted and nothing else
happens**, in exact arithmetic, on the tableau of a program and however often it was
optimised before. If the first phase ends without a shortfall, then after it artificial
variables are evicted. No row of any tableau on the way mentions artificial variables
only, and none of these is basic in the end. The right-hand sides, the value and the
solution are those with which the first phase has ended; and in no tableau of the second
phase an artificial variable is basic. -/
theorem evictions_hand_over {objective bounds : List Rat} {matrix : List (List Rat)}
    {t₀ : Tableau Rat}
    (shape : ofDense? objective matrix bounds = .ok t₀) {os : List (Options Rat)}
    (hos : ∀ o ∈ os, o.tolerance = 0) {budget : Nat} {t : Tableau Rat}
    (ht : t = t₀.optimizeAll os)
    (hsome : t.artificials ≠ 0) (hstop : (t.repairPhase ⟨0, budget⟩).stop = .optimal)
    (hshort : -(t.repairPhase ⟨0, budget⟩).tableau.value ≤ 0) :
    ∃ cells, (t.optimize ⟨0, budget⟩).evictions = some cells ∧
      let vertex := t.pivots (t.optimize ⟨0, budget⟩).repair
      let cleared := vertex.pivots cells
      vertex.Throughout Irredundant cells ∧ cleared.Clear ∧
      cleared.rows.map (·.rhs) = vertex.rows.map (·.rhs) ∧ cleared.value = vertex.value ∧
      cleared.solution = vertex.solution ∧
      cleared.Throughout Clear (t.optimize ⟨0, budget⟩).ascent := by
  have hfit : t.Fit := ht ▸ (fit_of_ofDense? shape).optimizeAll hos
  rw [optimize_of_repaired hsome hstop hshort]
  refine ⟨(t.repaired ⟨0, budget⟩).2, rfl, ?_⟩
  -- the first phase ends at a vertex where artificial variables are zero and may take
  -- any values
  have hrepair : t.Follows Pivotal (t.repairPhase ⟨0, budget⟩).cells :=
    follows_repairPhase le_rfl
  obtain ⟨hcan, heq⟩ := hrepair.canonical hfit.toCanonical
  have hsettled := settled_repairPhase hfit.toCanonical (o := ⟨0, budget⟩) le_rfl
    (repairPhase_nonneg hfit.toCanonical hfit.nonneg budget) hshort
  obtain ⟨hpivots, hfollows⟩ := evict_spec (t.pivots (t.repairPhase ⟨0, budget⟩).cells) 0
  have hvertex := hsettled.sameVertex_pivots hcan hfollows
  -- the second phase starts with no artificial variable in the basis
  have hclear : (t.repaired ⟨0, budget⟩).1.Clear :=
    (ready_repaired hfit.toCanonical hfit.nonneg hfit.free hshort).1.clear
  have hcleared :
    (t.pivots (t.repairPhase ⟨0, budget⟩).cells).pivots (t.repaired ⟨0, budget⟩).2
      = (t.repaired ⟨0, budget⟩).1 := hpivots.symm
  refine ⟨(heq.free hfit.free).throughout_irredundant hcan hfollows,
    hcleared.symm ▸ hclear, hvertex.rhs_eq, hvertex.value_eq, ?_, ?_⟩
  · show List.map _ (List.range _) = List.map _ (List.range _)
    rw [decisions_pivots]
    exact congrArg (fun v => (List.range _).map v) hvertex.valueAt_eq
  · show ((t.pivots (t.repairPhase ⟨0, budget⟩).cells).pivots
      (t.repaired ⟨0, budget⟩).2).Throughout Clear _
    rw [hcleared]
    exact hclear.throughout (isAscent_ascend _ _ _ _).follows

/-- Two bounds that meet, in a tableau whose first optimization was stopped at once: an
artificial variable stays basic at zero and is evicted. -/
theorem evictions_hand_over_meeting : ∃ t₀ t : Tableau Rat,
    ofDense? [-1, 0] [[1, 0], [-1, 0]] [1, -1] = .ok t₀ ∧ t = t₀.optimizeAll [⟨0, 0⟩] ∧
      t.artificials ≠ 0 ∧ (t.repairPhase ⟨0, 10⟩).stop = .optimal ∧
      -(t.repairPhase ⟨0, 10⟩).tableau.value ≤ 0 ∧
      (t.optimize ⟨0, 10⟩).evictions = some [⟨1, 2⟩] ∧
      ((t.pivots (t.optimize ⟨0, 10⟩).repair).pivots [⟨1, 2⟩]).Clear ∧
      ((t.pivots (t.optimize ⟨0, 10⟩).repair).pivots [⟨1, 2⟩]).solution
        = (t.pivots (t.optimize ⟨0, 10⟩).repair).solution ∧
      ((t.pivots (t.optimize ⟨0, 10⟩).repair).pivots [⟨1, 2⟩]).Throughout Clear
        (t.optimize ⟨0, 10⟩).ascent := by
  have shape : ofDense? [-1, 0] [[1, 0], [-1, 0]] [1, -1]
    = .ok (start [-1, 0] [⟨[1, 0], 1⟩, ⟨[-1, 0], (-1 : Rat)⟩]) := rfl
  have hstop :
      (((start [-1, 0] [⟨[1, 0], 1⟩, ⟨[-1, 0], (-1 : Rat)⟩]).optimizeAll
        [⟨0, 0⟩]).repairPhase ⟨0, 10⟩).stop = .optimal := by decide +kernel
  have hshort :
      -(((start [-1, 0] [⟨[1, 0], 1⟩, ⟨[-1, 0], (-1 : Rat)⟩]).optimizeAll
        [⟨0, 0⟩]).repairPhase ⟨0, 10⟩).tableau.value ≤ 0 := by decide +kernel
  have hsome :
      ((start [-1, 0] [⟨[1, 0], 1⟩, ⟨[-1, 0], (-1 : Rat)⟩]).optimizeAll
        [⟨0, 0⟩]).artificials ≠ 0 := by decide +kernel
  have hevictions :
      (((start [-1, 0] [⟨[1, 0], 1⟩, ⟨[-1, 0], (-1 : Rat)⟩]).optimizeAll
        [⟨0, 0⟩]).optimize ⟨0, 10⟩).evictions = some [⟨1, 2⟩] := by decide +kernel
  obtain ⟨cells, hcells, _, hclear, _, _, hsolution, hascent⟩ :=
    evictions_hand_over shape (by simp) rfl hsome hstop hshort
  obtain rfl : [⟨1, 2⟩] = cells := Option.some.inj (hevictions.symm.trans hcells)
  exact ⟨_, _, shape, rfl, hsome, hstop, hshort, hevictions, hclear, hsolution, hascent⟩

end Tableau

end LatticeLP

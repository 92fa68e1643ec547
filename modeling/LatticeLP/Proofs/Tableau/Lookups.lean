import LatticeLP.Double
import LatticeLP.Proofs.Tableau.Writing
import Mathlib.Data.Nat.PSub

/-!
# Lookups in a tableau

The operations on a tableau are total: a column beyond the width of a row reads as zero,
and a difference of numbers stops at zero. This module shows that an optimization never
makes use of that. It runs the operations once more with every lookup checked –
`Checked.optimize` fails where a row, a column or a basic variable is looked up that is
not there, where an entry is written to a place that is not there, and where a
difference would be negative – and the checked operations succeed with the result of the
others (`Checked.optimize_eq`).

A checked operation reads the entries of a row with its right-hand side behind the
coefficients, finds the right-hand sides in the last column of the price row, and finds
basic variables by the number of their row. Nothing is asked of the numbers: the tableau
has to be uniform, and the rest is control flow.
-/

namespace LatticeLP

/-! ## Loops that do not fail -/

section Loops

variable {α β : Type} {l : List α}

theorem mapM_eq_some_of_forall {f : α → Option β} {g : α → β}
    (h : ∀ a ∈ l, f a = some (g a)) :
    l.mapM f = some (l.map g) := by
  induction l with
  | nil => rfl
  | cons a l ih =>
    rw [List.mapM_cons, h a List.mem_cons_self,
      ih fun b hb => h b (List.mem_cons_of_mem a hb)]
    rfl

theorem findM?_eq_some_of_forall {f : α → Option Bool} {g : α → Bool}
    (h : ∀ a ∈ l, f a = some (g a)) :
    l.findM? f = some (l.find? g) := by
  induction l with
  | nil => rfl
  | cons a l ih =>
    rw [List.findM?, h a List.mem_cons_self, List.find?_cons]
    cases g a with
    | true => rfl
    | false => exact ih fun b hb => h b (List.mem_cons_of_mem a hb)

/-- A loop with an invariant that keeps it from failing. -/
theorem foldlM_eq_some_of_invariant (P : β → Prop) {f : β → α → Option β} {g : β → α → β}
    {b : β} (hb : P b) (step : ∀ b, ∀ a ∈ l, P b → f b a = some (g b a) ∧ P (g b a)) :
    l.foldlM f b = some (l.foldl g b) := by
  induction l generalizing b with
  | nil => rfl
  | cons a l ih =>
    obtain ⟨heq, hP⟩ := step b a List.mem_cons_self hb
    rw [List.foldlM_cons, heq]
    exact ih hP fun b' a' ha' => step b' a' (List.mem_cons_of_mem a ha')

end Loops

/-! ## Checked operations -/

namespace Checked

variable {K : Type} [Scalar K]

/-- The entry in the last column, that of the right-hand sides. -/
def last (t : Tableau K) (e : Equation K) : Option K := do
  let column ← t.price.entries.length.psub 1
  e.entries[column]?

def eliminate (e : Equation K) (column : Nat) (p : Equation K) : Option (Equation K) := do
  let factor ← e.entries[column]?
  return if factor == 0 then e else e.subtractMultiple factor p

/-- A row after a pivot with the given pivot row. -/
def pivotLine (cell : Cell) (p : Equation K) (other : Row K) (index : Nat) :
    Option (Row K) :=
  if index = cell.row then some ⟨p, cell.column⟩
  else return ⟨← eliminate other.toEquation cell.column p, other.basic⟩

def pivot (t : Tableau K) (cell : Cell) : Option (Tableau K) := do
  let row ← t.rows[cell.row]?
  let scale ← row.entries[cell.column]?
  let p := row.toEquation.divide scale
  let rows ← t.rows.zipIdx.mapM fun (other, index) => pivotLine cell p other index
  let price ← eliminate t.price cell.column p
  let carried ← t.carried.mapM fun e => eliminate e cell.column p
  return { t with rows, price, carried }

def entering (t : Tableau K) (columns : Nat) (tolerance : K) : Option (Option Nat) :=
  if columns ≤ t.price.entries.length then
    some ((t.price.entries.take columns).findIdx? fun c => decide (c < -tolerance))
  else none

/-- The limit of one row, if it limits the column. -/
def limit (t : Tableau K) (column : Nat) (tolerance : K) (row : Row K) (index : Nat) :
    Option (Option (Limit K)) := do
  let entry ← row.entries[column]?
  if tolerance < entry then
    let basic ← t.basics[index]?
    let rhs ← last t row.toEquation
    return some ⟨index, basic, rhs / entry⟩
  else return none

def leaving (t : Tableau K) (column : Nat) (tolerance : K) : Option (Option Nat) := do
  let limits ← t.rows.zipIdx.mapM fun (row, index) => limit t column tolerance row index
  return ((limits.filterMap id).foldl (Limit.choose tolerance) none).map (·.row)

def ascend (columns : Nat) (tolerance : K) :
    (budget : Nat) → Tableau K → Option (Ascent K)
  | 0, t => do
    match ← entering t columns tolerance with
    | none => return ⟨t, [], .optimal⟩
    | some _ => return ⟨t, [], .exhausted⟩
  | budget + 1, t => do
    match ← entering t columns tolerance with
    | none => return ⟨t, [], .optimal⟩
    | some column =>
      match ← leaving t column tolerance with
      | none => return ⟨t, [], .unbounded column⟩
      | some row =>
        let rest ← ascend columns tolerance budget (← pivot t ⟨row, column⟩)
        return { rest with cells := ⟨row, column⟩ :: rest.cells }

def shortfallPrice (t : Tableau K) : Option (Equation K) := do
  let column ← t.price.entries.length.psub 1
  let ones ← column.psub t.firstArtificial
  t.basics.zipIdx.foldlM (fun e (basic, index) => do
      if t.firstArtificial ≤ basic then return e.subtract (← t.rows[index]?).toEquation
      else return e)
    ⟨List.replicate t.firstArtificial 0 ++ List.replicate ones 1, 0⟩

def eviction (t : Tableau K) (tolerance : K) (row : Nat) : Option (Option Cell) := do
  let basic ← t.basics[row]?
  if t.firstArtificial ≤ basic then
    let r ← t.rows[row]?
    let column ← (List.range t.firstArtificial).findM? fun j =>
      r.entries[j]?.map fun entry => decide (tolerance < Scalar.abs entry)
    return column.map fun j => ⟨row, j⟩
  else return none

def evictFrom (tolerance : K) :
    (rows : List Nat) → Tableau K → Option (Tableau K × List Cell)
  | [], t => some (t, [])
  | row :: rows, t => do
    match ← eviction t tolerance row with
    | none => evictFrom tolerance rows t
    | some cell =>
      let (t, cells) ← evictFrom tolerance rows (← pivot t cell)
      return (t, cell :: cells)

def maximize (t : Tableau K) (tolerance : K) (budget : Nat) (repair : List Cell)
    (evictions : Option (List Cell)) : Option (Optimization K) := do
  let phase ← ascend t.firstArtificial tolerance budget t
  return { tableau := phase.tableau
           repair, evictions
           ascent := phase.cells
           verdict := phase.stop.verdict budget }

/-- **The checked optimization.** -/
def optimize (t : Tableau K) (o : Options K) : Option (Optimization K) := do
  if t.artificials = 0 then maximize t o.tolerance o.budget [] none
  else
    let phase ← ascend (t.firstArtificial + t.artificials) o.tolerance o.budget
      { t with price := ← shortfallPrice t, carried := t.price :: t.carried }
    let shortfall := -(← last phase.tableau phase.tableau.price)
    let repaired := phase.tableau.withObjective
    let failed (e : SolveError K) : Optimization K :=
      { tableau := repaired, repair := phase.cells, evictions := none, ascent := [],
        verdict := .error e }
    match phase.stop.verdict o.budget with
    | .error e => return failed e
    | .ok () =>
      if shortfall ≤ o.tolerance then
        let (evicted, cells) ← evictFrom o.tolerance (List.range repaired.height) repaired
        let left ← o.budget.psub phase.cells.length
        maximize evicted o.tolerance left phase.cells (some cells)
      else return failed (.infeasible shortfall)

/-- The tableau after several checked optimizations in turn. -/
def optimizeAll (t : Tableau K) (os : List (Options K)) : Option (Tableau K) :=
  os.foldlM (fun t o => (·.tableau) <$> optimize t o) t

def solution (t : Tableau K) : Option (List K) :=
  t.basics.zipIdx.foldlM (fun xs (basic, index) => do
      if basic < t.decisions then
        let row ← t.rows[index]?
        write xs basic (← last t row.toEquation)
      else return xs)
    (List.replicate t.decisions 0)

/-! ## They do not fail -/

section Pivots

variable {t : Tableau K} {cell : Cell} {columns column : Nat} {tolerance : K}

theorem eliminate_eq {e : Equation K} (h : column < e.coeffs.length) (p : Equation K) :
    eliminate e column p = some (e.eliminate column p) := by
  rw [eliminate, Equation.getElem?_entries h]
  rfl

omit [Scalar K] in
/-- **The right-hand side of a row is in the last column of the price row.** -/
theorem last_eq {e : Equation K} (h : e.coeffs.length = t.price.coeffs.length) :
    last t e = some e.rhs := by
  have hcolumn : t.price.entries.length.psub 1 = some e.coeffs.length :=
    Nat.psub_eq_some.mpr (by rw [Equation.length_entries, h])
  rw [last, hcolumn]
  exact Equation.getElem?_entries_length e

theorem pivotLine_eq {other : Row K} (h : cell.column < other.coeffs.length)
    (p : Equation K) (index : Nat) :
    pivotLine cell p other index = some (if index = cell.row then ⟨p, cell.column⟩
      else ⟨other.toEquation.eliminate cell.column p, other.basic⟩) := by
  rw [pivotLine, eliminate_eq h]
  split <;> rfl

theorem pivot_eq (ht : t.Uniform) (hrow : cell.row < t.height)
    (hcolumn : cell.column < t.width) :
    pivot t cell = some (t.pivot cell) := by
  have hfound : t.rows[cell.row]? = some t.rows[cell.row] := List.getElem?_eq_getElem hrow
  generalize t.rows[cell.row] = row at hfound
  have hscale : row.entries[cell.column]? = some (row.coeff cell.column) :=
    Equation.getElem?_entries
      ((ht.row_width row (List.mem_of_getElem? hfound)).symm ▸ hcolumn)
  have hrows : ∀ p : Equation K,
    (t.rows.zipIdx.mapM fun (other, index) => pivotLine cell p other index) =
      some (t.rows.zipIdx.map fun (other, index) => if index = cell.row
        then ⟨p, cell.column⟩
        else ⟨other.toEquation.eliminate cell.column p, other.basic⟩) := fun p =>
    mapM_eq_some_of_forall fun (other, index) hmem =>
      pivotLine_eq
        (ht.row_width other (List.fst_mem_of_mem_zipIdx hmem) ▸ hcolumn) p index
  have hcarried : ∀ p : Equation K, (t.carried.mapM fun e => eliminate e cell.column p)
      = some (t.carried.map (·.eliminate cell.column p)) := fun p =>
    mapM_eq_some_of_forall fun e he => eliminate_eq (ht.carried_width e he ▸ hcolumn) p
  have hprice : ∀ p : Equation K,
      eliminate t.price cell.column p = some (t.price.eliminate cell.column p) :=
    eliminate_eq (ht.price_width ▸ hcolumn)
  simp only [pivot, Tableau.pivot, hfound, hscale, hrows, hprice, hcarried,
    List.mapIdx_eq_zipIdx_map, Option.bind_eq_bind, Option.bind_some]
  rfl

/-- A place behind the last column is not there, whereas the pivot itself would read a
zero. -/
example : pivot (Tableau.start [1] [⟨[1], (1 : Rat)⟩]) ⟨0, 3⟩ = none :=
  rfl

theorem entering_eq (ht : t.Shaped) (h : columns ≤ t.width) :
    entering t columns tolerance = some (t.entering? columns tolerance) := by
  rw [← ht.price_width] at h
  rw [entering, if_pos (by rw [Equation.length_entries]; omega), Equation.entries,
    List.take_append_of_le_length h]
  rfl

theorem limit_eq (ht : t.Shaped) (h : column < t.width) {row : Row K} {index : Nat}
    (hrow : t.rows[index]? = some row) : limit t column tolerance row index =
      some (if tolerance < row.coeff column
        then some ⟨index, row.basic, row.rhs / row.coeff column⟩
        else none) := by
  have hwidth := ht.row_width row (List.mem_of_getElem? hrow)
  rw [limit, Equation.getElem?_entries (hwidth ▸ h), Tableau.getElem?_basics hrow,
    last_eq (hwidth.trans ht.price_width.symm)]
  simp only [Option.bind_eq_bind, Option.bind_some]
  split <;> rfl

theorem leaving_eq (ht : t.Shaped) (h : column < t.width) :
    leaving t column tolerance = some (t.leaving? column tolerance) := by
  have hlimits :
    (t.rows.zipIdx.mapM fun (row, index) => limit t column tolerance row index)
      = some (t.rows.zipIdx.map fun (row, index) => if tolerance < row.coeff column then
          some ⟨index, row.basic, row.rhs / row.coeff column⟩ else none) :=
    mapM_eq_some_of_forall fun (_, _) hmem =>
      limit_eq ht h (List.mk_mem_zipIdx_iff_getElem?.mp hmem)
  rw [leaving, hlimits, Tableau.leaving?, Tableau.limits]
  simp only [Option.bind_eq_bind, Option.bind_some, List.filterMap_map]
  rfl

/-- **An ascent looks up nothing that is not there.** -/
theorem ascend_eq {budget : Nat} (ht : t.Uniform) (h : columns ≤ t.width) :
    ascend columns tolerance budget t = some (t.ascend columns tolerance budget) := by
  induction budget generalizing t with
  | zero =>
    rw [ascend, Tableau.ascend, entering_eq ht.toShaped h]
    cases t.entering? columns tolerance <;> rfl
  | succ budget ih =>
    rw [ascend, Tableau.ascend, entering_eq ht.toShaped h]
    cases hcolumn : t.entering? columns tolerance with
    | none => rfl
    | some column =>
      have hlt := ht.entering?_lt hcolumn
      simp only [Option.bind_eq_bind, Option.bind_some, leaving_eq ht.toShaped hlt]
      cases hrow : t.leaving? column tolerance with
      | none => rfl
      | some row =>
        -- a column that enters and a row that leaves are there, so the pivot is inside
        -- the tableau
        obtain ⟨_, hfound, _⟩ := Tableau.exists_of_leaving? hrow
        have hpivot : pivot t ⟨row, column⟩ = some (t.pivot ⟨row, column⟩) :=
          pivot_eq ht (List.getElem?_eq_some_iff.mp hfound).1 hlt
        have hrest :=
          ih (ht.pivot hlt) (h.trans_eq (Tableau.width_pivot t ⟨row, column⟩).symm)
        simp only [hpivot, hrest, Option.bind_some]
        rfl

end Pivots

section Phases

variable {t : Tableau K} {tolerance : K} {o : Options K}

omit [Scalar K] in
/-- A loop over the basic variables that looks up their rows is a loop over the rows. -/
theorem foldlM_basics {β : Type} (t : Tableau K) (P : β → Prop)
    {f : β → Nat × Nat → Option β}
    {g : β → Row K → β} {b : β} (hb : P b)
    (step : ∀ b index row, t.rows[index]? = some row → P b →
      f b (row.basic, index) = some (g b row) ∧ P (g b row)) :
    t.basics.zipIdx.foldlM f b = some (t.rows.foldl g b) := by
  rw [Tableau.basics, List.zipIdx_map, List.foldlM_map,
    foldlM_eq_some_of_invariant P (g := fun b x => g b x.1) hb fun b x hmem =>
      step b x.2 x.1 (List.mk_mem_zipIdx_iff_getElem?.mp hmem), ← List.foldl_map,
      List.zipIdx_map_fst]

theorem shortfallPrice_eq (ht : t.Shaped) : shortfallPrice t = some t.shortfallPrice := by
  have hcolumn : t.price.entries.length.psub 1 = some t.width :=
    Nat.psub_eq_some.mpr (by rw [Equation.length_entries, ht.price_width])
  have hones : t.width.psub t.firstArtificial = some t.artificials :=
    Nat.psub_eq_some.mpr (Nat.add_comm _ _)
  simp only [shortfallPrice, hcolumn, hones, Option.bind_eq_bind, Option.bind_some]
  rw [foldlM_basics t (fun _ => True)
      (g := fun e row =>
        if t.firstArtificial ≤ row.basic then e.subtract row.toEquation else e)
      trivial fun e index row hrow _ => ⟨?_, trivial⟩,
    Tableau.shortfallPrice, List.foldl_filter]
  · simp
  · rw [hrow]
    split <;> rfl

theorem eviction_eq (ht : t.Shaped) {row : Nat} (hrow : row < t.height) :
    eviction t tolerance row = some (t.eviction? tolerance row) := by
  have hfound : t.rows[row]? = some t.rows[row] := List.getElem?_eq_getElem hrow
  generalize t.rows[row] = r at hfound
  have hbasic := Tableau.getElem?_basics hfound
  have hfind : ((List.range t.firstArtificial).findM? fun j =>
      r.entries[j]?.map fun entry => decide (tolerance < Scalar.abs entry))
      = some ((List.range t.firstArtificial).find? fun j =>
        tolerance < Scalar.abs (r.coeff j)) := by
    refine findM?_eq_some_of_forall fun j hj => ?_
    have hlt : j < r.coeffs.length :=
      (ht.row_width r (List.mem_of_getElem? hfound)).symm ▸
      (List.mem_range.mp hj).trans_le t.firstArtificial_le_width
    rw [Equation.getElem?_entries hlt, Option.map_some]
  simp only [eviction, Tableau.eviction?, hbasic, hfound, hfind, Option.bind_eq_bind,
    Option.bind_some]
  by_cases hge : t.firstArtificial ≤ r.basic
  · rw [if_pos hge]
    cases (List.range t.firstArtificial).find? _ <;> simp [hge, guard]
  · simp [hge, guard]

theorem evictFrom_eq {rows : List Nat} (ht : t.Uniform)
    (h : ∀ row ∈ rows, row < t.height) :
    evictFrom tolerance rows t = some (Tableau.evictFrom tolerance rows t) := by
  induction rows generalizing t with
  | nil => rfl
  | cons row rows ih =>
    have hrow := h row List.mem_cons_self
    have hrest : ∀ other ∈ rows, other < t.height :=
      fun other hother => h other (List.mem_cons_of_mem row hother)
    rw [evictFrom, Tableau.evictFrom, eviction_eq ht.toShaped hrow]
    cases hcell : t.eviction? tolerance row with
    | none => exact ih ht hrest
    | some cell =>
      obtain ⟨_, _, _, _, rfl⟩ := Tableau.eviction?_eq_some_iff.mp hcell
      have hstep : Tableau.EvictionStep tolerance t cell := hcell
      have hcolumn : cell.column < t.width :=
        hstep.column_lt.trans_le t.firstArtificial_le_width
      have hcells := ih (ht.pivot hcolumn) fun other hother => by
        rw [Tableau.height_pivot]
        exact hrest other hother
      simp only [Option.bind_eq_bind, Option.bind_some, pivot_eq ht hrow hcolumn, hcells]
      rfl

theorem maximize_eq (ht : t.Uniform) (budget : Nat) (repair : List Cell)
    (evictions : Option (List Cell)) :
    maximize t tolerance budget repair evictions
      = some (t.maximize tolerance budget repair evictions) := by
  rw [maximize, ascend_eq ht t.firstArtificial_le_width]
  rfl

/-- **A checked optimization does not fail**, and its record is that of the
optimization. -/
theorem optimize_eq (ht : t.Uniform) : optimize t o = some (t.optimize o) := by
  by_cases hzero : t.artificials = 0
  · rw [optimize, if_pos hzero, Tableau.optimize_of_artificials_eq_zero hzero,
      maximize_eq ht]
  have hphase : ascend (t.firstArtificial + t.artificials) o.tolerance o.budget
      { t with price := t.shortfallPrice, carried := t.price :: t.carried }
        = some (t.repairPhase o) :=
    ascend_eq ht.withShortfall le_rfl
  have hvalue : last (t.repairPhase o).tableau (t.repairPhase o).tableau.price
      = some (t.repairPhase o).tableau.value := last_eq rfl
  -- the pivots of the first phase are within the budget, so the second one has what is
  -- left
  have hleft : o.budget.psub (t.repairPhase o).cells.length
      = some (o.budget - (t.repairPhase o).cells.length) :=
    Nat.psub_eq_sub (Tableau.isAscent_repairPhase t o).length_le
  have huniform : (t.repairPhase o).tableau.withObjective.Uniform := by
    rw [Tableau.withObjective_repairPhase]
    exact ht.repairPhase o
  have hevict : ∀ s : Tableau K, s.Uniform → evictFrom o.tolerance (List.range s.height) s
      = some (s.evict o.tolerance) := fun s hs =>
    evictFrom_eq hs fun row hrow => List.mem_range.mp hrow
  simp only [optimize, Tableau.optimize, if_neg hzero, shortfallPrice_eq ht.toShaped,
    hphase, hvalue, Option.bind_eq_bind, Option.bind_some]
  rw [Tableau.ascend_withShortfall]
  cases ((t.repairPhase o).stop.verdict o.budget : Except (SolveError K) Unit) with
  | error e => rfl
  | ok _ =>
    by_cases hshort : -(t.repairPhase o).tableau.value ≤ o.tolerance
    · simp only [if_pos hshort, hevict _ huniform, hleft, Option.bind_some]
      exact maximize_eq (huniform.evict o.tolerance) _ _ _
    · simp only [if_neg hshort]
      rfl

/-- **Neither do several of them in turn.** -/
theorem optimizeAll_eq (ht : t.Uniform) (os : List (Options K)) :
    optimizeAll t os = some (t.optimizeAll os) := by
  rw [optimizeAll, Tableau.optimizeAll]
  refine foldlM_eq_some_of_invariant Tableau.Uniform ht fun s o _ hs => ?_
  rw [optimize_eq hs]
  exact ⟨rfl, hs.optimize o⟩

omit [Scalar K] in
/-- Writing the right-hand sides to the places of their basic variables, one row after
the other. -/
theorem foldl_set_basic (rows : List (Row K)) (d : Nat) (v : Nat → K) :
    rows.foldl (fun xs row => if row.basic < d then xs.set row.basic row.rhs else xs)
      ((List.range d).map v)
      = (List.range d).map fun j =>
        rows.foldl (fun x row => if row.basic = j then row.rhs else x) (v j) := by
  induction rows generalizing v with
  | nil => rfl
  | cons row rows ih =>
    have hrow :
      (if row.basic < d then ((List.range d).map v).set row.basic row.rhs
        else (List.range d).map v)
        = (List.range d).map fun j => if row.basic = j then row.rhs else v j := by
      refine List.ext_getElem (by split <;> simp) fun j hj hj' => ?_
      rw [List.length_map, List.length_range] at hj'
      split
      · simp [List.getElem_set]
      · next hge => simp [show row.basic ≠ j by omega]
    rw [List.foldl_cons, hrow, ih]
    rfl

/-- **Reading off the solution does not fail.** -/
theorem solution_eq (ht : t.Shaped) : solution t = some t.solution := by
  have hzeros :
      List.replicate t.decisions (0 : K) = (List.range t.decisions).map fun _ => 0 := by
    rw [List.map_const', List.length_range]
  rw [solution, foldlM_basics t (·.length = t.decisions)
    (g := fun xs row =>
      if row.basic < t.decisions then xs.set row.basic row.rhs else xs)
    List.length_replicate fun xs index row hrow hxs => ⟨?_, ?_⟩]
  · rw [hzeros, foldl_set_basic]
    rfl
  · have hrhs : last t row.toEquation = some row.rhs :=
      last_eq ((ht.row_width row (List.mem_of_getElem? hrow)).trans ht.price_width.symm)
    dsimp only
    split
    · next hlt =>
      simp only [hrow, hrhs, Option.bind_eq_bind, Option.bind_some]
      exact write_eq (hxs.symm ▸ hlt) row.rhs
    · rfl
  · split
    · rw [List.length_set, hxs]
    · exact hxs

end Phases

end Checked

namespace Tableau

/-- **An optimization stays inside the tableau**, in any arithmetic and whatever the
numbers are: not-a-number is one of them. A program of matching shape has a fresh
tableau, which is written within its bounds. After any number of optimizations with any
options and whatever their verdicts, the tableau has the layout of the program; and no
lookup on the way or in reading off the solution and the value is out of range, nor is
more of a budget spent than there is. -/
theorem optimizeAll_in_range {K : Type} [Scalar K] {objective bounds : List K}
    {matrix : List (List K)}
    (hbounds : matrix.length = bounds.length)
    (hrows : ∀ row ∈ matrix, row.length = objective.length) (os : List (Options K)) :
    ∃ t₀ t, ofDense? objective matrix bounds = .ok t₀ ∧ t = t₀.optimizeAll os ∧
      Checked.start objective (List.zipWith Equation.mk matrix bounds)
        = some (t₀.table, t₀.basics) ∧
      Checked.optimizeAll t₀ os = some t ∧
      t.Layout objective.length matrix.length (bounds.countP (· < 0)) ∧
      Checked.solution t = some t.solution ∧ Checked.last t t.price = some t.value := by
  have shape := ofDense?_eq_ok_iff.mpr ⟨hbounds, hrows, rfl⟩
  have huniform := uniform_of_ofDense? shape
  exact ⟨_, _, shape, rfl, Checked.start_eq fun e he => length_of_mem_zipWith shape he,
    Checked.optimizeAll_eq huniform os, layout_optimizeAll shape os,
    Checked.solution_eq (huniform.optimizeAll os).toShaped, Checked.last_eq rfl⟩

/-- A program with not-a-number and infinities for coefficients, bounds and tolerances. -/
theorem optimizeAll_in_range_nan : ∃ t₀ t : Tableau Float,
    ofDense? [0 / 0, 1] [[1, 0 / 0], [1 / 0, -1]] [-1 / 0, 0 / 0] = .ok t₀ ∧
      t = t₀.optimizeAll [⟨0 / 0, 3⟩, ⟨-1, 0⟩, ⟨1 / 0, 2⟩] ∧
      Checked.start [0 / 0, 1]
        (List.zipWith Equation.mk [[1, 0 / 0], [1 / 0, -1]] [-1 / 0, 0 / 0])
        = some (t₀.table, t₀.basics) ∧
      Checked.optimizeAll t₀ [⟨0 / 0, 3⟩, ⟨-1, 0⟩, ⟨1 / 0, 2⟩] = some t ∧
      t.Layout 2 2 ([-1 / 0, 0 / 0].countP fun b : Float => b < 0) ∧
      Checked.solution t = some t.solution ∧ Checked.last t t.price = some t.value :=
  optimizeAll_in_range rfl (by simp) [⟨0 / 0, 3⟩, ⟨-1, 0⟩, ⟨1 / 0, 2⟩]

end Tableau

end LatticeLP

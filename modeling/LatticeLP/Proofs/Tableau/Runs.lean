import LatticeLP.Proofs.Tableau.Canonical
import LatticeLP.Tableau.Optimize

/-!
# Runs of pivots

Every change that optimising makes to a tableau is a pivot, and an optimization keeps a
record of them. This module says, in any arithmetic, what that record is worth: the
tableau at the end is the tableau at the beginning after the recorded pivots
(`tableau_optimize`), and each pivot was chosen by the rule of its phase on the tableau
at hand – Bland's rule during an ascent (`isAscent_ascend`), the first entry that is not
zero during eviction (`evict_spec`).

The first phase takes the true price row out of every decision and yet through every
pivot, so putting it back at the end is the same as never having replaced it
(`withObjective_pivots_withShortfall`). This is why phase one needs no account of its
own: on the rows it is a run of pivots like any other.

An ascent that its budget cuts short can be continued: with a larger budget it is the
two parts one after the other (`ascend_add_of_exhausted`), and one that ended by itself
is not changed by a larger budget.

A property that one pivot under a rule keeps is kept by a run of them
(`Follows.invariant`); all invariants of the tableau are proved through that.
-/

namespace LatticeLP

/-- One ascent and then another, as a single one. -/
def Ascent.append {K : Type} (a b : Ascent K) : Ascent K :=
  ⟨b.tableau, a.cells ++ b.cells, b.stop⟩

namespace Tableau

variable {K : Type} [Scalar K] {t : Tableau K} {R : Tableau K → Cell → Prop}

@[simp] theorem pivots_nil (t : Tableau K) : t.pivots [] = t := rfl

@[simp] theorem pivots_cons (t : Tableau K) (cell : Cell) (cells : List Cell) :
    t.pivots (cell :: cells) = (t.pivot cell).pivots cells := rfl

theorem pivots_append (t : Tableau K) (cells cells' : List Cell) :
    t.pivots (cells ++ cells') = (t.pivots cells).pivots cells' :=
  List.foldl_append

/-! ## Following a rule -/

/-- **The pivots follow a rule**: each is allowed on the tableau that the ones before it
have made. -/
def Follows (R : Tableau K → Cell → Prop) : Tableau K → List Cell → Prop
  | _, [] => True
  | t, cell :: cells => R t cell ∧ Follows R (t.pivot cell) cells

theorem follows_append {cells cells' : List Cell} :
    t.Follows R (cells ++ cells') ↔
      t.Follows R cells ∧ (t.pivots cells).Follows R cells' := by
  induction cells generalizing t with
  | nil => simp [Follows]
  | cons cell cells ih =>
    simp only [List.cons_append, Follows, pivots_cons, ih, and_assoc]

/-- **What one pivot keeps, a run of pivots keeps.** -/
theorem Follows.invariant {P : Tableau K → Prop} {cells : List Cell}
    (step : ∀ t cell, P t → R t cell → P (t.pivot cell)) (ht : P t)
    (h : t.Follows R cells) :
    P (t.pivots cells) := by
  induction cells generalizing t with
  | nil => exact ht
  | cons cell cells ih => exact ih (step t cell ht h.1) h.2

/-- A run under one rule is a run under another, if an invariant of the first makes it
so. -/
theorem Follows.imp {P : Tableau K → Prop} {S : Tableau K → Cell → Prop}
    {cells : List Cell} (step : ∀ t cell, P t → R t cell → P (t.pivot cell))
    (imp : ∀ t cell, P t → R t cell → S t cell) (ht : P t) (h : t.Follows R cells) :
    t.Follows S cells := by
  induction cells generalizing t with
  | nil => trivial
  | cons cell cells ih => exact ⟨imp t cell ht h.1, ih (step t cell ht h.1) h.2⟩

theorem Follows.take {cells : List Cell} (h : t.Follows R cells) (i : Nat) :
    t.Follows R (cells.take i) := by
  rw [← List.take_append_drop i cells, follows_append] at h
  exact h.1

/-- The pivot made after `i` others is allowed on the tableau they have made. -/
theorem Follows.getElem {cells : List Cell} (h : t.Follows R cells) {i : Nat}
    (hi : i < cells.length) : R (t.pivots (cells.take i)) cells[i] := by
  rw [← List.take_append_drop i cells, List.drop_eq_getElem_cons hi, follows_append] at h
  exact h.2.1

theorem pivots_take_succ (t : Tableau K) {cells : List Cell} {i : Nat}
    (hi : i < cells.length) :
    t.pivots (cells.take (i + 1)) = (t.pivots (cells.take i)).pivot cells[i] := by
  rw [List.take_succ_eq_append_getElem hi, pivots_append]
  rfl

/-- The rows after a run depend on the rows before it, and not on the objective. -/
theorem rows_pivots_congr {t t' : Tableau K} (h : t.rows = t'.rows) (cells : List Cell) :
    (t.pivots cells).rows = (t'.pivots cells).rows := by
  induction cells generalizing t t' with
  | nil => exact h
  | cons cell cells ih => exact ih (rows_pivot_congr h cell)

theorem decisions_pivots (t : Tableau K) (cells : List Cell) :
    (t.pivots cells).decisions = t.decisions := by
  induction cells generalizing t with
  | nil => rfl
  | cons cell cells ih => rw [pivots_cons, ih, decisions_pivot]

theorem height_pivots (t : Tableau K) (cells : List Cell) :
    (t.pivots cells).height = t.height := by
  induction cells generalizing t with
  | nil => rfl
  | cons cell cells ih => rw [pivots_cons, ih, height_pivot]

theorem artificials_pivots (t : Tableau K) (cells : List Cell) :
    (t.pivots cells).artificials = t.artificials := by
  induction cells generalizing t with
  | nil => rfl
  | cons cell cells ih => rw [pivots_cons, ih, artificials_pivot]

theorem firstArtificial_pivots (t : Tableau K) (cells : List Cell) :
    (t.pivots cells).firstArtificial = t.firstArtificial := by
  rw [firstArtificial, decisions_pivots, height_pivots, firstArtificial]

/-- **All tableaux on the way** have a property, the first and the last one included. -/
def Throughout (P : Tableau K → Prop) : Tableau K → List Cell → Prop
  | t, [] => P t
  | t, cell :: cells => P t ∧ Throughout P (t.pivot cell) cells

theorem Throughout.first {P : Tableau K → Prop} {cells : List Cell}
    (h : t.Throughout P cells) :
    P t := by
  cases cells with
  | nil => exact h
  | cons cell cells => exact h.1

theorem throughout_append {P : Tableau K → Prop} {cells cells' : List Cell} :
    t.Throughout P (cells ++ cells')
      ↔ t.Throughout P cells ∧ (t.pivots cells).Throughout P cells' := by
  induction cells generalizing t with
  | nil => exact ⟨fun h => ⟨h.first, h⟩, fun h => h.2⟩
  | cons cell cells ih =>
    simp only [List.cons_append, Throughout, pivots_cons, ih, and_assoc]

theorem Throughout.last {P : Tableau K → Prop} {cells : List Cell}
    (h : t.Throughout P cells) :
    P (t.pivots cells) := by
  rw [← List.append_nil cells, throughout_append] at h
  exact h.2

theorem Throughout.imp {P Q : Tableau K → Prop} {cells : List Cell} (hPQ : ∀ s, P s → Q s)
    (h : t.Throughout P cells) : t.Throughout Q cells := by
  induction cells generalizing t with
  | nil => exact hPQ t h
  | cons cell cells ih => exact ⟨hPQ t h.1, ih h.2⟩

/-- A property of rows holds on the way whatever the objective is. -/
theorem Throughout.congr {P : Tableau K → Prop} {t t' : Tableau K} {cells : List Cell}
    (hP : ∀ {s s' : Tableau K}, s.rows = s'.rows → P s → P s') (hrows : t.rows = t'.rows)
    (h : t.Throughout P cells) : t'.Throughout P cells := by
  induction cells generalizing t t' with
  | nil => exact hP hrows h
  | cons cell cells ih => exact ⟨hP hrows h.1, ih (rows_pivot_congr hrows cell) h.2⟩

/-- What a run keeps holds all the way. -/
theorem Follows.throughout {P : Tableau K → Prop} {cells : List Cell}
    (step : ∀ t cell, P t → R t cell → P (t.pivot cell)) (ht : P t)
    (h : t.Follows R cells) :
    t.Throughout P cells := by
  induction cells generalizing t with
  | nil => exact ht
  | cons cell cells ih => exact ⟨ht, ih (step t cell ht h.1) h.2⟩

/-- A run under one rule is a run under another, if what holds on the way makes it so. -/
theorem Follows.imp_of_throughout {P : Tableau K → Prop} {S : Tableau K → Cell → Prop}
    {cells : List Cell} (imp : ∀ t cell, P t → R t cell → S t cell)
    (hP : t.Throughout P cells) (h : t.Follows R cells) : t.Follows S cells := by
  induction cells generalizing t with
  | nil => trivial
  | cons cell cells ih => exact ⟨imp t cell hP.1 h.1, ih hP.2 h.2⟩

/-! ## Ascents -/

/-- **Bland's rule** allows the entering column with its leaving row. -/
def BlandStep (columns : Nat) (tolerance : K) (t : Tableau K) (cell : Cell) : Prop :=
  t.entering? columns tolerance = some cell.column ∧
    t.leaving? cell.column tolerance = some cell.row

/-- **What an ascent is**: a run under Bland's rule from the tableau it starts at,
within its budget, that ends for the reason it gives. -/
structure IsAscent (columns : Nat) (tolerance : K) (budget : Nat) (t : Tableau K)
    (a : Ascent K) :
    Prop where
  /-- It ends at the tableau that its pivots make. -/
  tableau_eq : a.tableau = t.pivots a.cells
  /-- Its pivots follow Bland's rule. -/
  follows : t.Follows (BlandStep columns tolerance) a.cells
  /-- They are within the budget. -/
  length_le : a.cells.length ≤ budget
  /-- At an optimum no column enters. -/
  optimal : a.stop = .optimal → a.tableau.entering? columns tolerance = none
  /-- Along an unbounded column nothing leaves. -/
  unbounded : ∀ column, a.stop = .unbounded column →
    a.tableau.entering? columns tolerance = some column ∧
      a.tableau.leaving? column tolerance = none
  /-- An exhausted budget has been spent. -/
  exhausted : a.stop = .exhausted → a.cells.length = budget

theorem isAscent_ascend (columns : Nat) (tolerance : K) (budget : Nat) (t : Tableau K) :
    IsAscent columns tolerance budget t (t.ascend columns tolerance budget) := by
  induction budget generalizing t with
  | zero =>
    unfold ascend
    split
    · next h => exact ⟨rfl, trivial, le_rfl, fun _ => h, by simp, by simp⟩
    · next h => exact ⟨rfl, trivial, le_rfl, by simp, by simp, fun _ => rfl⟩
  | succ budget ih =>
    unfold ascend
    split
    · next h => exact ⟨rfl, trivial, Nat.zero_le _, fun _ => h, by simp, by simp⟩
    · next column hcolumn =>
      split
      · next hrow =>
        refine ⟨rfl, trivial, Nat.zero_le _, by simp, fun other hother => ?_, by simp⟩
        cases hother
        exact ⟨hcolumn, hrow⟩
      · next row hrow =>
        have rest := ih (t.pivot ⟨row, column⟩)
        exact ⟨rest.tableau_eq, ⟨⟨hcolumn, hrow⟩, rest.follows⟩,
          Nat.succ_le_succ rest.length_le,
          rest.optimal, rest.unbounded, fun h => congrArg Nat.succ (rest.exhausted h)⟩

/-! ### Continued ascents -/

/-- Where no column enters, an ascent is over before it begins. -/
theorem ascend_of_entering?_eq_none {columns : Nat} {tolerance : K}
    (h : t.entering? columns tolerance = none) (budget : Nat) :
    t.ascend columns tolerance budget = ⟨t, [], .optimal⟩ := by
  cases budget <;> simp only [ascend, h]

/-- **An ascent that ended before its budget did is the same with a larger one.** -/
theorem ascend_add_of_ended {columns : Nat} {tolerance : K} {budget : Nat}
    (h : (t.ascend columns tolerance budget).stop ≠ .exhausted) (more : Nat) :
    t.ascend columns tolerance (budget + more) = t.ascend columns tolerance budget := by
  induction budget generalizing t with
  | zero =>
    cases hcolumn : t.entering? columns tolerance with
    | some column => exact absurd (by simp [ascend, hcolumn]) h
    | none =>
      rw [ascend_of_entering?_eq_none hcolumn, ascend_of_entering?_eq_none hcolumn]
  | succ budget ih =>
    rw [Nat.succ_add]
    cases hcolumn : t.entering? columns tolerance with
    | none => simp [ascend, hcolumn]
    | some column =>
      cases hrow : t.leaving? column tolerance with
      | none => simp [ascend, hcolumn, hrow]
      | some row =>
        simp only [ascend, hcolumn, hrow] at h ⊢
        rw [ih h]

/-- **An exhausted ascent can be continued**: with a larger budget it makes the same
pivots and goes on from where they lead. -/
theorem ascend_add_of_exhausted {columns : Nat} {tolerance : K} {budget : Nat}
    (h : (t.ascend columns tolerance budget).stop = .exhausted) (more : Nat) :
    t.ascend columns tolerance (budget + more)
      = (t.ascend columns tolerance budget).append
        ((t.ascend columns tolerance budget).tableau.ascend columns tolerance more) := by
  induction budget generalizing t with
  | zero =>
    cases hcolumn : t.entering? columns tolerance with
    | none => simp [ascend, hcolumn] at h
    | some column =>
      have hstay : t.ascend columns tolerance 0 = ⟨t, [], .exhausted⟩ := by
        simp [ascend, hcolumn]
      rw [Nat.zero_add, hstay]
      rfl
  | succ budget ih =>
    rw [Nat.succ_add]
    cases hcolumn : t.entering? columns tolerance with
    | none => simp [ascend, hcolumn] at h
    | some column =>
      cases hrow : t.leaving? column tolerance with
      | none => simp [ascend, hcolumn, hrow] at h
      | some row =>
        simp only [ascend, hcolumn, hrow] at h ⊢
        rw [ih h]
        rfl

/-- **An ascent that arrives at an optimum needs a budget for the pivots it makes** and
no larger one. -/
theorem ascend_of_optimal {columns : Nat} {tolerance : K} {budget b : Nat}
    (h : (t.ascend columns tolerance budget).stop = .optimal)
    (hb : (t.ascend columns tolerance budget).cells.length ≤ b) :
    t.ascend columns tolerance b = t.ascend columns tolerance budget := by
  induction budget generalizing t b with
  | zero =>
    cases hcolumn : t.entering? columns tolerance with
    | none =>
      rw [ascend_of_entering?_eq_none hcolumn, ascend_of_entering?_eq_none hcolumn]
    | some column => simp [ascend, hcolumn] at h
  | succ budget ih =>
    cases hcolumn : t.entering? columns tolerance with
    | none =>
      rw [ascend_of_entering?_eq_none hcolumn, ascend_of_entering?_eq_none hcolumn]
    | some column =>
      cases hrow : t.leaving? column tolerance with
      | none => simp [ascend, hcolumn, hrow] at h
      | some row =>
        simp only [ascend, hcolumn, hrow, List.length_cons] at h hb ⊢
        obtain ⟨b, rfl⟩ : ∃ b', b = b' + 1 := ⟨b - 1, by omega⟩
        simp only [ascend, hcolumn, hrow]
        rw [ih h (Nat.le_of_succ_le_succ hb)]

/-- **With a budget for fewer pivots than it makes an ascent is exhausted.** -/
theorem stop_ascend_of_lt {columns : Nat} {tolerance : K} {budget b : Nat}
    (hb : b < (t.ascend columns tolerance budget).cells.length) :
    (t.ascend columns tolerance b).stop = .exhausted := by
  have hle : b ≤ budget :=
    hb.le.trans (isAscent_ascend columns tolerance budget t).length_le
  by_contra hended
  -- otherwise it would have ended, and made no more pivots than its budget allows
  have heq := ascend_add_of_ended hended (budget - b)
  rw [Nat.add_sub_cancel' hle] at heq
  rw [heq] at hb
  exact absurd (isAscent_ascend columns tolerance b t).length_le (not_le.mpr hb)

/-! ## Evictions -/

/-- The rule of eviction. -/
def EvictionStep (tolerance : K) (t : Tableau K) (cell : Cell) : Prop :=
  t.eviction? tolerance cell.row = some cell

theorem eviction?_eq_some_iff {tolerance : K} {row : Nat} {cell : Cell} :
    t.eviction? tolerance row = some cell ↔ ∃ r, t.rows[row]? = some r ∧
      t.firstArtificial ≤ r.basic ∧
      (List.range t.firstArtificial).find? (fun j => tolerance < Scalar.abs (r.coeff j))
        = some cell.column ∧ cell.row = row := by
  unfold eviction?
  cases h : t.rows[row]? with
  | none => simp
  | some r =>
    by_cases hb : t.firstArtificial ≤ r.basic
    · cases hf : (List.range t.firstArtificial).find?
          (fun j => decide (tolerance < Scalar.abs (r.coeff j))) with
      | none =>
        simp only [bind, Option.bind, guard, hb, if_true, pure, hf,
          reduceCtorEq, false_iff]
        rintro ⟨r', hr', _, hcol, _⟩
        cases hr'
        rw [hf] at hcol
        cases hcol
      | some column =>
        simp only [bind, Option.bind, guard, hb, if_true, pure, hf, Option.some.injEq]
        constructor
        · rintro rfl
          exact ⟨r, rfl, hb, hf, rfl⟩
        · rintro ⟨r', rfl, _, hcol, rfl⟩
          rw [hf, Option.some.injEq] at hcol
          subst hcol
          rfl
    · simp [hb, guard]

theorem evictFrom_spec (tolerance : K) (rows : List Nat) (t : Tableau K) :
    (evictFrom tolerance rows t).1 = t.pivots (evictFrom tolerance rows t).2 ∧
      t.Follows (EvictionStep tolerance) (evictFrom tolerance rows t).2 := by
  induction rows generalizing t with
  | nil => exact ⟨rfl, trivial⟩
  | cons row rows ih =>
    unfold evictFrom
    split
    · exact ih t
    · next cell hcell =>
      obtain ⟨_, _, _, _, rfl⟩ := eviction?_eq_some_iff.mp hcell
      exact ⟨(ih _).1, hcell, (ih _).2⟩

/-- **Eviction is a run of pivots** under its rule. -/
theorem evict_spec (t : Tableau K) (tolerance : K) :
    (t.evict tolerance).1 = t.pivots (t.evict tolerance).2 ∧
      t.Follows (EvictionStep tolerance) (t.evict tolerance).2 :=
  evictFrom_spec tolerance _ t

/-! ## The two phases -/

/-- The first phase of an optimization, whether or not it is needed. -/
def repairPhase (t : Tableau K) (o : Options K) : Ascent K :=
  t.withShortfall.ascend (t.firstArtificial + t.artificials) o.tolerance o.budget

theorem ascend_withShortfall (t : Tableau K) (o : Options K) :
    t.withShortfall.ascend (t.firstArtificial + t.artificials) o.tolerance o.budget
      = t.repairPhase o :=
  rfl

theorem isAscent_repairPhase (t : Tableau K) (o : Options K) :
    IsAscent (t.firstArtificial + t.artificials) o.tolerance o.budget t.withShortfall
      (t.repairPhase o) :=
  isAscent_ascend _ _ _ _

/-- A first phase that ended by itself is the same with a larger budget. -/
theorem repairPhase_add_of_ended {tolerance : K} {budget : Nat}
    (h : (t.repairPhase ⟨tolerance, budget⟩).stop ≠ .exhausted) (more : Nat) :
    t.repairPhase ⟨tolerance, budget + more⟩ = t.repairPhase ⟨tolerance, budget⟩ :=
  ascend_add_of_ended h more

/-- The tableau with another objective in the place of its own, which is carried along. -/
def carrying (t : Tableau K) (e : Equation K) : Tableau K :=
  { t with price := e, carried := t.price :: t.carried }

/-- **Pivots act on a carried objective as they would in its place.** -/
theorem exists_carrying_pivots (t : Tableau K) (e : Equation K) (cells : List Cell) :
    ∃ e', (t.carrying e).pivots cells = (t.pivots cells).carrying e' := by
  induction cells generalizing t e with
  | nil => exact ⟨e, rfl⟩
  | cons cell cells ih =>
    have hpivot : ∃ e', (t.carrying e).pivot cell = (t.pivot cell).carrying e' := by
      cases h : t.rows[cell.row]? with
      | none => exact ⟨e, by simp only [pivot, carrying, h]⟩
      | some row =>
        refine ⟨e.eliminate cell.column (pivotRow row cell.column), ?_⟩
        simp only [pivot, carrying, h, pivotRow, List.map_cons]
    obtain ⟨e', he'⟩ := hpivot
    rw [pivots_cons, pivots_cons, he']
    exact ih (t.pivot cell) e'

/-- **Putting the objective back undoes its exchange**, whatever pivots lie between. -/
theorem withObjective_pivots_withShortfall (t : Tableau K) (cells : List Cell) :
    (t.withShortfall.pivots cells).withObjective = t.pivots cells := by
  obtain ⟨e, he⟩ := t.exists_carrying_pivots t.shortfallPrice cells
  rw [show t.withShortfall = t.carrying t.shortfallPrice from rfl, he]
  rfl

theorem withObjective_repairPhase (t : Tableau K) (o : Options K) :
    (t.repairPhase o).tableau.withObjective = t.pivots (t.repairPhase o).cells := by
  rw [(isAscent_repairPhase t o).tableau_eq, withObjective_pivots_withShortfall]

omit [Scalar K] in
/-- Only an exhausted ascent is reported as one. -/
theorem stop_eq_exhausted_of_verdict {stop : Stop} {budget budget' : Nat}
    (h : (stop.verdict budget : Except (SolveError K) Unit)
      = .error (.exhausted budget')) :
    stop = .exhausted := by
  cases stop with
  | optimal => cases h
  | unbounded column => cases h
  | exhausted => rfl

/-- Without artificial variables there is only the second phase. -/
theorem optimize_of_artificials_eq_zero (h : t.artificials = 0) (o : Options K) :
    t.optimize o = t.maximize o.tolerance o.budget [] none :=
  if_pos h

/-- A first phase that does not reach an optimum is the end. -/
theorem optimize_of_stopped (h : t.artificials ≠ 0) {o : Options K} {e : SolveError K}
    (hstop : (t.repairPhase o).stop.verdict o.budget = .error e) :
    t.optimize o = ⟨t.pivots (t.repairPhase o).cells, (t.repairPhase o).cells, none, [],
      .error e⟩ := by
  rw [← withObjective_repairPhase]
  simp only [optimize, if_neg h]
  rw [ascend_withShortfall, hstop]

/-- Its verdict is then the one of the optimization. -/
theorem optimize_of_not_optimal (h : t.artificials ≠ 0) {o : Options K}
    (hstop : (t.repairPhase o).stop ≠ .optimal) :
    t.optimize o = ⟨t.pivots (t.repairPhase o).cells, (t.repairPhase o).cells, none, [],
      (t.repairPhase o).stop.verdict o.budget⟩ := by
  cases hverdict :
      ((t.repairPhase o).stop.verdict o.budget : Except (SolveError K) Unit) with
  | error e => exact optimize_of_stopped h hverdict
  | ok _ =>
    cases hcase : (t.repairPhase o).stop with
    | optimal => exact absurd hcase hstop
    | unbounded column => rw [hcase] at hverdict; cases hverdict
    | exhausted => rw [hcase] at hverdict; cases hverdict

/-- A shortfall that remains is reported. -/
theorem optimize_of_shortfall (h : t.artificials ≠ 0) {o : Options K}
    (hstop : (t.repairPhase o).stop = .optimal)
    (hshort : ¬ -(t.repairPhase o).tableau.value ≤ o.tolerance) :
    t.optimize o = ⟨t.pivots (t.repairPhase o).cells, (t.repairPhase o).cells, none, [],
      .error (.infeasible (-(t.repairPhase o).tableau.value))⟩ := by
  rw [← withObjective_repairPhase]
  simp only [optimize, if_neg h]
  rw [ascend_withShortfall, hstop]
  simp only [Stop.verdict, if_neg hshort]

/-- The tableau on which the second phase starts. -/
def repaired (t : Tableau K) (o : Options K) : Tableau K × List Cell :=
  (t.pivots (t.repairPhase o).cells).evict o.tolerance

/-- Once the shortfall is gone, artificial variables are evicted and the objective is
maximised. -/
theorem optimize_of_repaired (h : t.artificials ≠ 0) {o : Options K}
    (hstop : (t.repairPhase o).stop = .optimal)
    (hshort : -(t.repairPhase o).tableau.value ≤ o.tolerance) :
    t.optimize o = (t.repaired o).1.maximize o.tolerance
      (o.budget - (t.repairPhase o).cells.length) (t.repairPhase o).cells
      (some (t.repaired o).2) := by
  rw [repaired, ← withObjective_repairPhase]
  simp only [optimize, if_neg h]
  rw [ascend_withShortfall, hstop]
  simp only [Stop.verdict, if_pos hshort]

/-- **The four ways of an optimization.** -/
@[elab_as_elim]
theorem optimize_cases {motive : Optimization K → Prop} (t : Tableau K) (o : Options K)
    (direct : t.artificials = 0 → motive (t.maximize o.tolerance o.budget [] none))
    (stopped : t.artificials ≠ 0 → ∀ e,
      (t.repairPhase o).stop.verdict o.budget = .error e →
      motive ⟨t.pivots (t.repairPhase o).cells, (t.repairPhase o).cells, none,
        [], .error e⟩)
    (shortfall : t.artificials ≠ 0 → (t.repairPhase o).stop = .optimal →
      ¬ -(t.repairPhase o).tableau.value ≤ o.tolerance →
      motive ⟨t.pivots (t.repairPhase o).cells, (t.repairPhase o).cells, none, [],
        .error (.infeasible (-(t.repairPhase o).tableau.value))⟩)
    (repaired : t.artificials ≠ 0 → (t.repairPhase o).stop = .optimal →
      -(t.repairPhase o).tableau.value ≤ o.tolerance →
      motive ((t.repaired o).1.maximize o.tolerance
        (o.budget - (t.repairPhase o).cells.length)
        (t.repairPhase o).cells (some (t.repaired o).2))) :
    motive (t.optimize o) := by
  by_cases h : t.artificials = 0
  · rw [optimize_of_artificials_eq_zero h]
    exact direct h
  cases hstop : (t.repairPhase o).stop with
  | optimal =>
    by_cases hshort : -(t.repairPhase o).tableau.value ≤ o.tolerance
    · rw [optimize_of_repaired h hstop hshort]
      exact repaired h hstop hshort
    · rw [optimize_of_shortfall h hstop hshort]
      exact shortfall h hstop hshort
  | unbounded column =>
    have hverdict : (t.repairPhase o).stop.verdict o.budget
        = .error (.unbounded column : SolveError K) := by rw [hstop]; rfl
    rw [optimize_of_stopped h hverdict]
    exact stopped h _ hverdict
  | exhausted =>
    have hverdict : (t.repairPhase o).stop.verdict o.budget
        = .error (.exhausted o.budget : SolveError K) := by rw [hstop]; rfl
    rw [optimize_of_stopped h hverdict]
    exact stopped h _ hverdict

/-- Only a first phase finds a program infeasible, and it reports the shortfall that it
ended with. -/
theorem shortfall_of_verdict {o : Options K} {shortfall : K}
    (h : (t.optimize o).verdict = .error (.infeasible shortfall)) :
    (t.repairPhase o).stop = .optimal ∧ -(t.repairPhase o).tableau.value = shortfall ∧
      ¬ shortfall ≤ o.tolerance := by
  have hstop : ∀ (stop : Stop) (budget : Nat),
      (stop.verdict budget : Except (SolveError K) Unit)
        ≠ .error (.infeasible shortfall) :=
    fun stop budget => by cases stop <;> simp [Stop.verdict]
  revert h
  refine optimize_cases t o (fun _ h => ?_) (fun _ e he h => ?_)
    (fun _ hoptimal hshort h => ?_)
    (fun _ _ _ h => ?_)
  · exact absurd h (hstop _ _)
  · exact absurd (he.trans h) (hstop _ _)
  · simp only [Except.error.injEq, SolveError.infeasible.injEq] at h
    exact ⟨hoptimal, h, h ▸ hshort⟩
  · exact absurd h (hstop _ _)

theorem repaired_fst (t : Tableau K) (o : Options K) :
    (t.repaired o).1 = t.pivots ((t.repairPhase o).cells ++ (t.repaired o).2) := by
  rw [pivots_append, repaired, (evict_spec _ _).1]

theorem tableau_maximize (t : Tableau K) (tolerance : K) (budget : Nat)
    (repair : List Cell) (evictions : Option (List Cell)) :
    (t.maximize tolerance budget repair evictions).tableau
      = t.pivots (t.maximize tolerance budget repair evictions).ascent :=
  (isAscent_ascend t.firstArtificial tolerance budget t).tableau_eq

/-- **Optimising makes the pivots it records and changes nothing else.** -/
theorem tableau_optimize (t : Tableau K) (o : Options K) :
    (t.optimize o).tableau = t.pivots (t.optimize o).cells := by
  refine optimize_cases t o (fun _ => ?_) (fun _ e _ => ?_) (fun _ _ _ => ?_)
    (fun _ _ _ => ?_)
  · exact tableau_maximize _ _ _ _ _
  · simp [Optimization.cells]
  · simp [Optimization.cells]
  · rw [tableau_maximize, repaired_fst, ← pivots_append]
    rfl

end Tableau

end LatticeLP

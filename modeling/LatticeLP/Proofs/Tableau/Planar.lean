import LatticeLP.Proofs.Tableau.Verdict

/-!
# The columns of a planar tableau

The tableau of a planar program has two decision variables, a slack variable for each
constraint and an artificial one for each constraint with a negative bound (`Kind`).
What its rows say is short: the slack variable of a constraint is the slack of the
point, and if the constraint has an artificial variable, that much more
(`solves_tableau_iff`).

So the solutions form a space with two directions for the point and one for each
artificial variable, and from one solution any other is reached by a **shift**
(`exists_shifted`). In canonical form only one solution has zeros outside the basis, and
a shift that leaves those variables **still** is therefore none (`Still.eq_zero`). That
says which columns a basis may consist of: not of a slack variable together with the
artificial variable of its constraint (`slack_or_artificial`), and not of a column
without a meaning (`not_spare`).
-/

namespace LatticeLP

namespace Program

/-! ## Columns -/

/-- The constraints as equations with a slack. -/
def system (p : Program Rat) : List (Equation Rat) :=
  p.constraints.map fun c => ⟨[c.form.a, c.form.b], c.bound⟩

/-- The artificial variable of the constraint at an index, if its bound is negative. -/
def artificial (p : Program Rat) (i : Nat) : Nat :=
  2 + p.constraints.length + Tableau.negatives (p.system.take i)

/-- A column that belongs to no constraint. -/
def Spare (p : Program Rat) (j : Nat) : Prop :=
  2 + p.constraints.length ≤ j ∧
    ∀ i c, p.constraints[i]? = some c → c.bound < 0 → p.artificial i ≠ j

/-- **What a column stands for.** -/
inductive Kind (p : Program Rat) : Nat → Prop where
  /-- The first coordinate. -/
  | x : Kind p 0
  /-- The second coordinate. -/
  | y : Kind p 1
  /-- The slack variable of a constraint. -/
  | slack {i : Nat} {c : Constraint Rat} (h : p.constraints[i]? = some c) : Kind p (2 + i)
  /-- The artificial variable of a constraint with a negative bound. -/
  | artificial {i : Nat} {c : Constraint Rat} (h : p.constraints[i]? = some c)
    (hneg : c.bound < 0) : Kind p (p.artificial i)
  /-- No variable of the program. -/
  | spare {j : Nat} (h : p.Spare j) : Kind p j

variable {p : Program Rat} {i j : Nat} {c : Constraint Rat} {v w : Nat → Rat}

theorem kind (p : Program Rat) (j : Nat) : p.Kind j := by
  match j with
  | 0 => exact .x
  | 1 => exact .y
  | j + 2 =>
    rcases lt_or_ge j p.constraints.length with hlt | hge
    · rw [Nat.add_comm]
      exact .slack (List.getElem?_eq_getElem hlt)
    · by_cases h : ∃ i c,
        p.constraints[i]? = some c ∧ c.bound < 0 ∧ p.artificial i = j + 2
      · obtain ⟨i, c, hc, hneg, heq⟩ := h
        exact heq ▸ .artificial hc hneg
      · exact .spare ⟨by omega, fun i c hc hneg heq => h ⟨i, c, hc, hneg, heq⟩⟩

theorem length_coeffs_of_mem_system :
    ∀ e ∈ p.system, e.coeffs.length = p.coefficients.length := by
  intro e he
  obtain ⟨c, _, rfl⟩ := List.mem_map.mp he
  rfl

theorem getElem?_system (p : Program Rat) (i : Nat) :
    p.system[i]? = p.constraints[i]?.map fun c => ⟨[c.form.a, c.form.b], c.bound⟩ :=
  List.getElem?_map ..

theorem getElem?_system_of_eq_some (hc : p.constraints[i]? = some c) :
    p.system[i]? = some ⟨[c.form.a, c.form.b], c.bound⟩ := by
  rw [getElem?_system, hc, Option.map_some]

theorem length_system (p : Program Rat) : p.system.length = p.constraints.length :=
  List.length_map _

theorem le_artificial (p : Program Rat) (i : Nat) :
    2 + p.constraints.length ≤ p.artificial i :=
  Nat.le_add_right _ _

/-- Constraints with negative bounds do not share artificial variables. -/
theorem eq_of_artificial_eq {i' : Nat} {c' : Constraint Rat}
    (hc : p.constraints[i]? = some c) (hc' : p.constraints[i']? = some c')
    (hneg : c.bound < 0) (hneg' : c'.bound < 0)
    (h : p.artificial i = p.artificial i') : i = i' :=
  Tableau.eq_of_negatives_take_eq (getElem?_system_of_eq_some hc)
    (getElem?_system_of_eq_some hc') hneg hneg' (Nat.add_left_cancel h)

/-! ## Solutions -/

theorem linear_pair (a b : Rat) (v : Nat → Rat) :
    linear [a, b] v = a * v 0 + b * v 1 := by
  simp [linear, Finset.sum_range_succ]

/-- **What the rows say**: a slack variable is the slack of the point, and the
artificial variable of its constraint on top. -/
theorem solves_tableau_iff : p.tableau.Solves v ↔ ∀ i c, p.constraints[i]? = some c →
    v (2 + i) = c.slack ⟨v 0, v 1⟩ + if c.bound < 0 then v (p.artificial i) else 0 := by
  have hrow : ∀ i c, p.constraints[i]? = some c →
      (linear [c.form.a, c.form.b] v + v (2 + i) - c.bound
          = (if c.bound < 0 then v (p.artificial i) else 0) ↔
        v (2 + i) = c.slack ⟨v 0, v 1⟩ + if c.bound < 0 then v (p.artificial i)
          else 0) := by
    intro i c _
    rw [linear_pair, Constraint.slack, LinearForm.value]
    constructor <;> intro h <;> linarith
  have hartificial : ∀ i, p.coefficients.length + p.system.length
      + Tableau.negatives (p.system.take i) = p.artificial i := fun i => by
    rw [length_system]
    rfl
  have hsolves := Tableau.solves_start_iff (length_coeffs_of_mem_system (p := p)) v
  refine hsolves.trans ⟨fun h i c hc => ?_, fun h i e he => ?_⟩
  · have := h i _ (getElem?_system_of_eq_some hc)
    rw [hartificial] at this
    exact (hrow i c hc).mp this
  · rw [getElem?_system, Option.map_eq_some_iff] at he
    obtain ⟨c, hc, rfl⟩ := he
    rw [hartificial]
    exact (hrow i c hc).mpr (h i c hc)

/-- **A shift** from one solution to another, by `u` in the plane, by `α` in the
artificial variables of constraints, and by `β` in columns that belong to none. -/
structure Shifted (p : Program Rat) (u : Point Rat) (α β : Nat → Rat) (v w : Nat →
    Rat) : Prop where
  /-- The first coordinate. -/
  x : w 0 = v 0 + u.x
  /-- The second coordinate. -/
  y : w 1 = v 1 + u.y
  /-- A slack variable makes up for the shift of the point and of the artificial
  variable. -/
  slack : ∀ {i c}, p.constraints[i]? = some c →
    w (2 + i) = v (2 + i) - c.form.value u + if c.bound < 0 then α i else 0
  /-- An artificial variable. -/
  artificial : ∀ {i c}, p.constraints[i]? = some c → c.bound < 0 →
    w (p.artificial i) = v (p.artificial i) + α i
  /-- A column that belongs to no constraint. -/
  spare : ∀ {j}, p.Spare j → w j = v j + β j

/-- **From a solution every shift leads to a solution.** -/
theorem exists_shifted (hv : p.tableau.Solves v) (u : Point Rat) (α β : Nat → Rat) :
    ∃ w, p.tableau.Solves w ∧ p.Shifted u α β v w := by
  let negative := {i : Nat // ∃ c, p.constraints[i]? = some c ∧ c.bound < 0}
  let column : negative → Nat := fun i => p.artificial i.val
  have hinj : Function.Injective column := by
    rintro ⟨i, c, hc, hneg⟩ ⟨i', c', hc', hneg'⟩ h
    exact Subtype.ext (eq_of_artificial_eq hc hc' hneg hneg' h)
  let a : Nat → Rat :=
    Function.extend column (fun i => v (column i) + α i.val) fun j => v j + β j
  let x : Nat → Rat := fun j => if j = 0 then v 0 + u.x else v 1 + u.y
  have ha : ∀ {i c}, p.constraints[i]? = some c → c.bound < 0 →
      a (p.artificial i) = v (p.artificial i) + α i := fun {i c} hc hneg =>
    hinj.extend_apply _ _ ⟨i, c, hc, hneg⟩
  refine ⟨Tableau.completion p.coefficients p.system x a,
    Tableau.solves_completion length_coeffs_of_mem_system x a, ?_, ?_, fun {i c} hc => ?_,
    fun {i c} hc hneg => ?_, fun {j} hj => ?_⟩
  · exact Tableau.completion_decision (show 0 < 2 from Nat.zero_lt_two) x a
  · exact Tableau.completion_decision (show 1 < 2 from Nat.one_lt_two) x a
  · have hslack := solves_tableau_iff.mp hv i c hc
    have hrow : Tableau.completion p.coefficients p.system x a (2 + i) = _ :=
      Tableau.completion_slack (getElem?_system_of_eq_some hc) x a
    rw [linear_pair, show p.coefficients.length + p.system.length
      + Tableau.negatives (p.system.take i) = p.artificial i by rw [length_system]; rfl]
        at hrow
    refine hrow.trans ?_
    rw [hslack, show x 0 = v 0 + u.x from rfl, show x 1 = v 1 + u.y from rfl]
    simp only [Constraint.slack, LinearForm.value]
    by_cases hneg : c.bound < 0
    · rw [if_pos hneg, if_pos hneg, if_pos hneg, ha hc hneg]
      ring
    · rw [if_neg hneg, if_neg hneg, if_neg hneg]
      ring
  · rw [Tableau.completion_artificial (by rw [length_system]; exact le_artificial p i)]
    exact ha hc hneg
  · rw [Tableau.completion_artificial (by rw [length_system]; exact hj.1)]
    refine Function.extend_apply' _ _ _ ?_
    rintro ⟨⟨i, c, hc, hneg⟩, heq⟩
    exact hj.2 i c hc hneg heq

/-! ## Bases -/

/-- **A shift that keeps still** the variables outside the basis of a tableau. -/
structure Still (p : Program Rat) (s : Tableau Rat) (u : Point Rat) (α β : Nat →
    Rat) : Prop where
  /-- The first coordinate. -/
  x : 0 ∉ s.basics → u.x = 0
  /-- The second coordinate. -/
  y : 1 ∉ s.basics → u.y = 0
  /-- Slack variables. -/
  slack : ∀ {i c}, p.constraints[i]? = some c → 2 + i ∉ s.basics →
    c.form.value u = if c.bound < 0 then α i else 0
  /-- Artificial variables. -/
  artificial : ∀ {i c}, p.constraints[i]? = some c → c.bound < 0 →
    p.artificial i ∉ s.basics → α i = 0
  /-- Columns that belong to no constraint. -/
  spare : ∀ {j}, p.Spare j → j ∉ s.basics → β j = 0

section Basis

variable {s : Tableau Rat} (hs : s.Canonical) (he : ∀ v, s.Solves v ↔ p.tableau.Solves v)

include hs he

/-- **In canonical form a still shift is none.** -/
theorem Still.eq_zero {u : Point Rat} {α β : Nat → Rat} (h : p.Still s u α β) :
    u.x = 0 ∧ u.y = 0 ∧ (∀ i c, p.constraints[i]? = some c → c.bound < 0 → α i = 0) ∧
      ∀ j, p.Spare j → β j = 0 := by
  obtain ⟨w, hw, hshift⟩ := exists_shifted ((he _).mp hs.solves_valueAt) u α β
  have hzero : ∀ j, j ∉ s.basics → w j = 0 := by
    intro j hj
    have hvalue := Tableau.valueAt_of_notMem hj
    cases p.kind j with
    | x => rw [hshift.x, hvalue, h.x hj, add_zero]
    | y => rw [hshift.y, hvalue, h.y hj, add_zero]
    | slack hc => rw [hshift.slack hc, hvalue, h.slack hc hj, zero_sub, neg_add_cancel]
    | artificial hc hneg =>
      rw [hshift.artificial hc hneg, hvalue, h.artificial hc hneg hj, add_zero]
    | spare hspare => rw [hshift.spare hspare, hvalue, h.spare hspare hj, add_zero]
  have heq := hs.eq_valueAt_of_solves ((he w).mpr hw) hzero
  rw [heq] at hshift
  exact ⟨left_eq_add.mp hshift.x, left_eq_add.mp hshift.y,
    fun i c hc hneg => left_eq_add.mp (hshift.artificial hc hneg),
    fun j hj => left_eq_add.mp (hshift.spare hj)⟩

/-- **A slack variable and its artificial variable are not both basic**, as their
columns differ by a sign only. -/
theorem slack_or_artificial (hc : p.constraints[i]? = some c) (hneg : c.bound < 0) :
    2 + i ∉ s.basics ∨ p.artificial i ∉ s.basics := by
  by_contra hboth
  rw [not_or, not_not, not_not] at hboth
  have hstill : p.Still s .origin (fun k => if k = i then 1 else 0) fun _ => 0 :=
    { x := fun _ => rfl
      y := fun _ => rfl
      slack := fun {k c'} _ hk => by
        rw [if_neg fun h : k = i => hk (h ▸ hboth.1), ite_self]
        simp [LinearForm.value]
      artificial := fun {k c'} _ _ hk => if_neg fun h : k = i => hk (h ▸ hboth.2)
      spare := fun _ _ => rfl }
  have hzero := (hstill.eq_zero hs he).2.2.1 i c hc hneg
  rw [if_pos rfl] at hzero
  exact one_ne_zero hzero

/-- **A basic variable has a meaning.** -/
theorem not_spare (hj : j ∈ s.basics) : ¬ p.Spare j := by
  intro hspare
  have hstill : p.Still s .origin (fun _ => 0) fun k => if k = j then 1 else 0 :=
    { x := fun _ => rfl
      y := fun _ => rfl
      slack := fun _ _ => by
        rw [ite_self]
        simp [LinearForm.value]
      artificial := fun _ _ _ => rfl
      spare := fun {k} _ hk => if_neg fun h : k = j => hk (h ▸ hj) }
  have hzero := (hstill.eq_zero hs he).2.2.2 j hspare
  rw [if_pos rfl] at hzero
  exact one_ne_zero hzero

end Basis

end Program

end LatticeLP

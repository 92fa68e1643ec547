import LatticeLP.Proofs.Tableau.Layout

/-!
# How the table of a program is written

The tableau of a program is defined row by row and column by column, but its table can
also be written as a program would write it: each line is a line of zeros, the
coefficients overwrite its first entries, and one entry each is written for the slack
variable, for the right-hand side and, if the bound is negative, for the next artificial
variable. `Checked.start` does so and fails if a place is not there. It does not fail,
and what it writes is the table of the tableau with its basic variables
(`Checked.start_eq`): the next artificial variable is always one of those that have been
counted before.
-/

namespace LatticeLP

namespace Checked

variable {K : Type} [Scalar K] {n m k index rank : Nat}

/-! ## Writing to a list -/

/-- Write an entry to a place of a list, which has to be there. -/
def write {α : Type} (l : List α) (place : Nat) (a : α) : Option (List α) :=
  if place < l.length then some (l.set place a) else none

/-- Write entries to the first places of a list, which have to be there. -/
def overwrite {α : Type} : (l as : List α) → Option (List α)
  | l, [] => some l
  | [], _ :: _ => none
  | _ :: l, a :: as => (a :: ·) <$> overwrite l as

theorem write_eq {α : Type} {l : List α} {place : Nat} (h : place < l.length) (a : α) :
    write l place a = some (l.set place a) :=
  if_pos h

theorem overwrite_eq {α : Type} {l as : List α} (h : as.length ≤ l.length) :
    overwrite l as = some (as ++ l.drop as.length) := by
  induction as generalizing l with
  | nil => cases l <;> rfl
  | cons a as ih =>
    cases l with
    | nil => exact absurd h (Nat.not_succ_le_zero _)
    | cons b l =>
      rw [overwrite, ih (Nat.le_of_succ_le_succ h)]
      rfl

/-- Writing between two parts of a list writes to the part between them. -/
theorem write_between {α : Type} (l l' l'' : List α) {place : Nat} (h : place < l'.length)
    (a : α) :
    write (l ++ l' ++ l'') (l.length + place) a = some (l ++ l'.set place a ++ l'') := by
  rw [write_eq (by simp only [List.length_append]; omega),
    List.set_append_left _ _ (by rw [List.length_append]; omega),
    List.set_append_right _ _ (Nat.le_add_right _ _), Nat.add_sub_cancel_left]

/-! ## Writing a program -/

/-- The line with which a constraint enters a tableau and its basic variable, with the
next artificial variable. -/
def startRow (n m k index next : Nat) (e : Equation K) : Option (List K × Nat) := do
  let sign : K := if e.rhs < 0 then -1 else 1
  let entries ← overwrite (List.replicate (n + m + k + 1) 0) (e.coeffs.map (sign * ·))
  let entries ← write entries (n + index) sign
  let entries ← write entries (n + m + k) (sign * e.rhs)
  if e.rhs < 0 then
    let entries ← write entries next 1
    return (entries, next)
  else return (entries, n + index)

/-- The lines of several constraints. -/
def startRows (n m k : Nat) :
    (index next : Nat) → List (Equation K) → Option (List (List K × Nat))
  | _, _, [] => some []
  | index, next, e :: system => do
    let row ← startRow n m k index next e
    let rows ← startRows n m k (index + 1) (if e.rhs < 0 then next + 1 else next) system
    return row :: rows

/-- The table and the basic variables of a program. -/
def start (objective : List K) (system : List (Equation K)) :
    Option (List (List K) × List Nat) := do
  let n := objective.length
  let m := system.length
  let k := Tableau.negatives system
  let rows ← startRows n m k 0 (n + m) system
  let price ← overwrite (List.replicate (n + m + k + 1) 0) (objective.map (- ·))
  return (rows.map (·.1) ++ [price], rows.map (·.2))

theorem unitList_eq_set (length position : Nat) (value : K) :
    unitList length position value = (List.replicate length 0).set position value := by
  refine List.ext_getElem (by simp [unitList]) fun j hj _ => ?_
  rw [List.getElem_set, List.getElem_replicate]
  simp [unitList, eq_comm]

/-- The line of a constraint, before and after its entries are written. -/
theorem entries_startRow (e : Equation K) :
    (Tableau.startRow n m k index rank e).entries =
      e.coeffs.map ((if e.rhs < 0 then -1 else 1) * ·) ++
        ((List.replicate m 0).set index (if e.rhs < 0 then -1 else 1) ++
          ((if e.rhs < 0 then (List.replicate k 0).set rank 1 else List.replicate k 0) ++
            [(if e.rhs < 0 then -1 else 1) * e.rhs])) := by
  simp only [Tableau.startRow, Equation.entries, decide_eq_true_eq, unitList_eq_set,
    List.append_assoc]

theorem startRow_eq {e : Equation K} (he : e.coeffs.length = n) (hindex : index < m)
    (hrank : e.rhs < 0 → rank < k) : startRow n m k index (n + m + rank) e =
      some ((Tableau.startRow n m k index rank e).entries,
        (Tableau.startRow n m k index rank e).basic) := by
  rw [entries_startRow, Tableau.basic_startRow, startRow]
  generalize hsign : (if e.rhs < 0 then -1 else 1 : K) = sign
  -- the line in its parts: coefficients, slack variables, artificial variables and the
  -- right-hand side
  generalize hcoeffs : e.coeffs.map (sign * ·) = coeffs
  generalize hslacks : (List.replicate m (0 : K)).set index sign = slacks
  have hn : coeffs.length = n := by rw [← hcoeffs, List.length_map, he]
  have hm : slacks.length = m := by rw [← hslacks, List.length_set, List.length_replicate]
  have hzeros : (List.replicate (n + m + k + 1) (0 : K)).drop coeffs.length
      = List.replicate m 0 ++ (List.replicate k 0 ++ [0]) := by
    rw [hn, List.drop_replicate, ← List.replicate_succ', List.replicate_append_replicate]
    congr 1
    omega
  have hwritten : overwrite (List.replicate (n + m + k + 1) 0) coeffs
      = some (coeffs ++ List.replicate m 0 ++ (List.replicate k 0 ++ [0])) := by
    rw [overwrite_eq (by rw [hn, List.length_replicate]; omega), hzeros,
      List.append_assoc]
  have hslack :
    write (coeffs ++ List.replicate m 0 ++ (List.replicate k 0 ++ [0])) (n + index) sign
      = some (coeffs ++ slacks ++ List.replicate k 0 ++ [0]) := by
    rw [← hn, write_between coeffs _ _ (by rwa [List.length_replicate]), hslacks,
      List.append_assoc _ _ [0]]
  have hrhs :
    write (coeffs ++ slacks ++ List.replicate k 0 ++ [0]) (n + m + k) (sign * e.rhs)
      = some (coeffs ++ slacks ++ List.replicate k 0 ++ [sign * e.rhs]) := by
    have hwrite :=
      write_between (coeffs ++ slacks ++ List.replicate k 0) [0] [] Nat.zero_lt_one
        (sign * e.rhs)
    simpa [hn, hm, Nat.add_assoc] using hwrite
  simp only [hwritten, hslack, hrhs, Option.bind_eq_bind, Option.bind_some]
  by_cases hneg : e.rhs < 0
  · have hartificial :
      write (coeffs ++ slacks ++ List.replicate k 0 ++ [sign * e.rhs]) (n + m + rank) 1
        = some (coeffs ++ slacks ++ (List.replicate k 0).set rank 1
          ++ [sign * e.rhs]) := by
      rw [← hn, ← hm, ← List.length_append,
        write_between (coeffs ++ slacks) _ _
          (by rw [List.length_replicate]; exact hrank hneg)]
    rw [if_pos hneg, if_pos hneg, if_pos hneg, hartificial]
    simp only [List.append_assoc]
    rfl
  · rw [if_neg hneg, if_neg hneg, if_neg hneg]
    simp only [List.append_assoc]
    rfl

/-- **The lines of the constraints from any one of them on**: the next artificial
variable is the one whose rank is the number of negative bounds so far. -/
theorem startRows_eq {objective : List K} {system : List (Equation K)}
    (hsys : ∀ e ∈ system, e.coeffs.length = objective.length) {rest : List (Equation K)}
    (hrest : system.drop index = rest) :
    startRows objective.length system.length (Tableau.negatives system) index
        (objective.length + system.length + Tableau.negatives (system.take index)) rest =
      some (((Tableau.start objective system).rows.drop index).map fun row =>
        (row.entries, row.basic)) := by
  -- as many rows are left to write as constraints
  induction rest generalizing index with
  | nil =>
    have hdone : (Tableau.start objective system).rows.drop index = [] := by
      rw [List.drop_eq_nil_iff] at hrest ⊢
      exact Tableau.height_start.trans_le hrest
    rw [hdone]
    rfl
  | cons e rest ih =>
    have he : system[index]? = some e := by
      rw [← Nat.add_zero index, ← List.getElem?_drop, hrest]; rfl
    have hnext : system.drop (index + 1) = rest := by rw [← List.tail_drop, hrest]; rfl
    have hindex := (List.getElem?_eq_some_iff.mp he).1
    have hrow : (Tableau.start objective system).rows[index]? = _ :=
      Tableau.getElem?_start index
    rw [he, Option.map_some] at hrow
    obtain ⟨hlt, hrow⟩ := List.getElem?_eq_some_iff.mp hrow
    have hrank :
      objective.length + system.length + Tableau.negatives (system.take (index + 1))
        = if e.rhs < 0
          then objective.length + system.length
          + Tableau.negatives (system.take index) + 1
          else objective.length + system.length
            + Tableau.negatives (system.take index) := by
      rw [Tableau.negatives_take_succ he]
      split <;> rfl
    rw [startRows, startRow_eq (hsys e (List.mem_of_getElem? he)) hindex
      (Tableau.negatives_take_lt_negatives he), ← hrank, ih hnext,
      List.drop_eq_getElem_cons hlt, hrow]
    rfl

/-- **The table of a program is written within its bounds**, and each artificial
variable is there. -/
theorem start_eq {objective : List K} {system : List (Equation K)}
    (hsys : ∀ e ∈ system, e.coeffs.length = objective.length) :
    start objective system =
      some ((Tableau.start objective system).table,
        (Tableau.start objective system).basics) := by
  have hrows : startRows objective.length system.length (Tableau.negatives system) 0
      (objective.length + system.length) system
      = some ((Tableau.start objective system).rows.map fun row =>
        (row.entries, row.basic)) :=
    startRows_eq hsys List.drop_zero
  have hprice : overwrite (List.replicate
      (objective.length + system.length + Tableau.negatives system + 1) 0)
        (objective.map (- ·))
      = some (Tableau.start objective system).price.entries := by
    rw [overwrite_eq (by rw [List.length_map, List.length_replicate]; omega),
      List.length_map,
      List.drop_replicate,
      show objective.length + system.length + Tableau.negatives system + 1
        - objective.length
        = system.length + Tableau.negatives system + 1 by
          omega, List.replicate_succ', ← List.append_assoc]
    rfl
  simp only [start, hrows, hprice, Option.bind_eq_bind, Option.bind_some, List.map_map]
  rfl

end Checked

end LatticeLP

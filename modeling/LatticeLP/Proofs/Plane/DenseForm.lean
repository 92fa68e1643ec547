import Mathlib.Data.Prod.Lex
import LatticeLP.Double
import LatticeLP.Plane.Program
import LatticeLP.Proofs.Failure

/-!
# Programs and their dense form

The dense form of a program – coefficients, matrix and bounds – determines the program,
and every program has one. Not all lists are a dense form, and there may be several
reasons why some are not. The `Objection`s to them are listed without regard to each
other; they are raised in the order of their `rank`, so that of all that apply the first
is reported (`ofDense?_eq_error_iff`).

Nothing here depends on the arithmetic. In particular the numbers may be any doubles,
not-a-number and the infinities included.
-/

namespace LatticeLP

/-! ## Finite numbers -/

section Finite

variable {K : Type} [Scalar K]

theorem LinearForm.isFinite_eq_false_iff {f : LinearForm K} :
    f.isFinite = false ↔ ∃ a ∈ [f.a, f.b], Scalar.isFinite a = false := by
  simp [isFinite, ← Bool.not_eq_true, imp_iff_not_or]

theorem Constraint.isFinite_eq_false_iff {c : Constraint K} :
    c.isFinite = false ↔ ∃ a ∈ [c.form.a, c.form.b] ++ [c.bound],
      Scalar.isFinite a = false := by
  simp [isFinite, LinearForm.isFinite, ← Bool.not_eq_true, imp_iff_not_or, or_assoc]

end Finite

/-! ## Precedence -/

/-- **The place of an error in the order in which errors are looked for**: first by what
is wrong, then by where. -/
def ProgramError.rank : ProgramError → ℕ ×ₗ ℕ
  | objectiveLength _ => toLex (0, 0)
  | boundCount _ _ => toLex (1, 0)
  | rowLength row _ => toLex (2, row)
  | objectiveNotFinite => toLex (3, 0)
  | constraintNotFinite index => toLex (4, index)

namespace Program

variable {K : Type} [Scalar K] {f : LinearForm K} {cs : List (Constraint K)}
  {p : Program K} {e e' : ProgramError}

/-! ## Parts -/

/-- **Parts make a program if all their numbers are finite**, and then it is made of
these parts. -/
theorem ofParts?_eq_ok_iff : ofParts? f cs = .ok p ↔
    f.isFinite = true ∧ (∀ c ∈ cs, c.isFinite = true) ∧ ⟨f, ⟨cs⟩⟩ = p := by
  unfold ofParts?
  by_cases hf : f.isFinite = true
  · cases hcs : cs.findIdx? (fun c => !c.isFinite) with
    | none =>
      rw [List.findIdx?_eq_none_iff] at hcs
      simp only [Bool.not_eq_false'] at hcs
      simp only [hf, if_true, true_and]
      exact ⟨fun h => ⟨hcs, Except.ok.inj h⟩, fun h => congrArg _ h.2⟩
    | some i =>
      have hbad : ¬ ∀ c ∈ cs, c.isFinite = true := fun h => by
        rw [List.findIdx?_eq_none_iff.mpr fun c hc => by simp [h c hc]] at hcs
        cases hcs
      simp [hf, hbad]
  · simp [hf]

/-- What is wrong with parts that make no program: the objective, or the first
constraint with a number that is not finite. -/
theorem of_ofParts?_eq_error (h : ofParts? f cs = .error e) :
    (f.isFinite = false ∧ e = .objectiveNotFinite) ∨
    (f.isFinite = true ∧ ∃ i, ∃ hi : i < cs.length, cs[i].isFinite = false ∧
      (∀ j, ∀ hj : j < i, cs[j].isFinite = true) ∧ e = .constraintNotFinite i) := by
  unfold ofParts? at h
  split at h
  · next hf =>
    split at h
    · next i hi =>
      obtain ⟨hlt, hbad, hfirst⟩ := List.findIdx?_eq_some_iff_getElem.mp hi
      refine .inr
        ⟨hf, i, hlt, by simpa using hbad, fun j hj => by simpa using hfirst j hj, ?_⟩
      exact (Except.error.inj h).symm
    · cases h
  · next hf => exact .inl ⟨by simpa using hf, (Except.error.inj h).symm⟩

/-! ## Rows -/

section Rows

omit [Scalar K]

theorem ofRow?_eq_ok_iff {index : Nat} {row : List K} {bound : K} {c : Constraint K} :
    ofRow? index row bound = .ok c ↔ (row, bound) = ([c.form.a, c.form.b], c.bound) := by
  unfold ofRow?
  split
  · next a b =>
    obtain ⟨⟨a', b'⟩, bound'⟩ := c
    simp [and_assoc]
  · next hne =>
    simp only [reduceCtorEq, Prod.mk.injEq, false_iff, not_and]
    rintro rfl
    exact absurd rfl (hne _ _)

theorem ofRow?_eq_error_iff {index : Nat} {row : List K} {bound : K} :
    ofRow? index row bound = .error e ↔
      row.length ≠ 2 ∧ e = .rowLength index row.length := by
  unfold ofRow?
  split
  · simp
  · next hne =>
    have hlength : row.length ≠ 2 := fun h => by
      obtain ⟨a, b, rfl⟩ := List.length_eq_two.mp h
      exact hne a b rfl
    simp [hlength, eq_comm]

/-- The constraints that rows and bounds describe, the rows being numbered from
`start`. -/
def readRows (start : Nat) (rows : List (List K × K)) :
    Except ProgramError (List (Constraint K)) :=
  (rows.zipIdx start).mapM fun ((row, bound), index) => ofRow? index row bound

theorem readRows_cons (start : Nat) (row : List K × K) (rows : List (List K × K)) :
    readRows start (row :: rows) = (do
      let c ← ofRow? start row.1 row.2
      let cs ← readRows (start + 1) rows
      pure (c :: cs)) :=
  List.mapM_cons

/-- **Rows and bounds describe the constraints that have these rows and bounds.** -/
theorem readRows_eq_ok_iff {start : Nat} {rows : List (List K × K)} :
    readRows start rows = .ok cs ↔
      rows = cs.map fun c => ([c.form.a, c.form.b], c.bound) := by
  induction rows generalizing start cs with
  | nil => cases cs <;> simp [readRows]
  | cons row rows ih =>
    simp only [readRows_cons, bind_eq_ok, ih, ofRow?_eq_ok_iff, pure_eq_ok]
    constructor
    · rintro ⟨c, hrow, cs, rfl, rfl⟩
      rw [List.map_cons, ← hrow]
    · intro h
      obtain ⟨c, cs, rfl, hrow, rfl⟩ := List.map_eq_cons_iff.mp h.symm
      exact ⟨c, hrow.symm, cs, rfl, rfl⟩

/-- Rows that describe no constraints are reported by the first of a wrong length. -/
theorem of_readRows_eq_error {start : Nat} {rows : List (List K × K)}
    (h : readRows start rows = .error e) :
    ∃ i, ∃ hi : i < rows.length,
      rows[i].1.length ≠ 2 ∧ (∀ j, ∀ hj : j < i, rows[j].1.length = 2) ∧
      e = .rowLength (start + i) rows[i].1.length := by
  induction rows generalizing start with
  | nil => cases h
  | cons row rows ih =>
    simp only [readRows_cons, bind_eq_error, pure_ne_error, and_false, exists_false,
      or_false] at h
    rcases h with h | ⟨c, hc, h⟩
    · obtain ⟨hlength, rfl⟩ := ofRow?_eq_error_iff.mp h
      exact ⟨0, Nat.zero_lt_succ _, hlength, fun j hj => absurd hj j.not_lt_zero, rfl⟩
    · have hrow : row.1.length = 2 := congrArg (·.1.length) (ofRow?_eq_ok_iff.mp hc)
      obtain ⟨i, hi, hlength, hbefore, rfl⟩ := ih h
      refine ⟨i + 1, Nat.succ_lt_succ hi, hlength, fun j hj => ?_, ?_⟩
      · cases j with
        | zero => exact hrow
        | succ j => exact hbefore j (Nat.lt_of_succ_lt_succ hj)
      · rw [Nat.add_right_comm, Nat.add_assoc]
        rfl

/-- Rows and bounds in equal number are the dense form of the constraints that they
describe. -/
theorem readRows_zip_eq_ok_iff {start : Nat} {matrix : List (List K)} {bounds : List K}
    (hlength : matrix.length = bounds.length) :
    readRows start (matrix.zip bounds) = .ok cs ↔
      cs.map (fun c => [c.form.a, c.form.b]) = matrix ∧ cs.map (·.bound) = bounds := by
  rw [readRows_eq_ok_iff]
  constructor
  · intro hzip
    have hmatrix := congrArg (List.map Prod.fst) hzip
    have hbounds := congrArg (List.map Prod.snd) hzip
    rw [List.map_fst_zip hlength.le, List.map_map] at hmatrix
    rw [List.map_snd_zip hlength.ge, List.map_map] at hbounds
    exact ⟨hmatrix.symm, hbounds.symm⟩
  · rintro ⟨rfl, rfl⟩
    exact List.zip_map'

end Rows

/-! ## The dense form -/

variable {objective : List K} {matrix : List (List K)} {bounds : List K}

/-- **The shape of the dense form of a program**: two coefficients, as many rows as
bounds, and two coefficients in every row. -/
structure Shaped (objective : List K) (matrix : List
    (List K)) (bounds : List K) : Prop where
  objective : objective.length = 2
  rows : matrix.length = bounds.length
  row : ∀ row ∈ matrix, row.length = 2

/-- **A reason not to accept lists as a dense form**, whatever other reasons there are. -/
inductive Objection (objective : List K) (matrix : List (List K)) (bounds : List K) :
    ProgramError → Prop where
  /-- There are not two coefficients. -/
  | objectiveLength (length : objective.length ≠ 2) :
    Objection objective matrix bounds (.objectiveLength objective.length)
  /-- There are not as many rows as bounds. -/
  | boundCount (length : matrix.length ≠ bounds.length) :
    Objection objective matrix bounds (.boundCount matrix.length bounds.length)
  /-- A row does not have two coefficients. -/
  | rowLength {index : Nat} {row : List K} (found : matrix[index]? = some row)
    (length : row.length ≠ 2) :
    Objection objective matrix bounds (.rowLength index row.length)
  /-- A coefficient is not finite. -/
  | objectiveNotFinite {a : K} (found : a ∈ objective)
    (notFinite : Scalar.isFinite a = false) :
    Objection objective matrix bounds .objectiveNotFinite
  /-- A number of a row or its bound is not finite. -/
  | constraintNotFinite {index : Nat} {row : List K} {bound a : K}
    (foundRow : matrix[index]? = some row)
      (foundBound : bounds[index]? = some bound) (found : a ∈ row ++ [bound])
      (notFinite : Scalar.isFinite a = false) :
    Objection objective matrix bounds (.constraintNotFinite index)

/-- **The first of all objections.** -/
def FirstObjection (objective : List K) (matrix : List (List K)) (bounds : List K)
    (e : ProgramError) : Prop :=
  Objection objective matrix bounds e ∧ ∀ e', Objection objective matrix bounds e' →
    e.rank ≤ e'.rank

/-! ### What is accepted -/

theorem ofDense?_pair (a b : K) (matrix : List (List K)) (bounds : List K) :
    ofDense? [a, b] matrix bounds =
    if matrix.length = bounds.length
      then readRows 0 (matrix.zip bounds) >>= ofParts? ⟨a, b⟩
    else .error (.boundCount matrix.length bounds.length) :=
  rfl

/-- All numbers of a program are finite. -/
def AllFinite (p : Program K) : Prop :=
  p.objective.isFinite = true ∧ ∀ c ∈ p.constraints, c.isFinite = true

instance : Decidable p.AllFinite :=
  inferInstanceAs (Decidable (_ ∧ ∀ c ∈ p.constraints, _))

theorem allFinite_iff : p.AllFinite ↔ (∀ a ∈ p.coefficients, Scalar.isFinite a = true) ∧
    (∀ row ∈ p.matrix, ∀ a ∈ row, Scalar.isFinite a = true) ∧ ∀ b ∈ p.bounds,
      Scalar.isFinite b = true := by
  simp [AllFinite, LinearForm.isFinite, Constraint.isFinite, coefficients, matrix, bounds,
    forall_and, and_assoc]

/-- **A dense form is accepted as the program whose dense form it is**, if the numbers
of that are finite. -/
theorem ofDense?_eq_ok_iff : ofDense? objective matrix bounds = .ok p ↔
    (p.coefficients = objective ∧ p.matrix = matrix ∧ p.bounds = bounds) ∧
      p.AllFinite := by
  constructor
  · intro h
    unfold ofDense? at h
    split at h
    · next a b =>
      split at h
      · next hlength =>
        obtain ⟨cs, hrows, hparts⟩ := bind_eq_ok.mp h
        obtain ⟨hobjective, hconstraints, rfl⟩ := ofParts?_eq_ok_iff.mp hparts
        exact ⟨⟨rfl, (readRows_zip_eq_ok_iff hlength).mp hrows⟩, hobjective, hconstraints⟩
      · cases h
    · cases h
  · rintro ⟨⟨rfl, rfl, rfl⟩, hobjective, hconstraints⟩
    have hlength : p.matrix.length = p.bounds.length := by simp [matrix, bounds]
    rw [coefficients, ofDense?_pair, if_pos hlength, bind_eq_ok]
    exact ⟨p.constraints, (readRows_zip_eq_ok_iff hlength).mpr ⟨rfl, rfl⟩,
      ofParts?_eq_ok_iff.mpr ⟨hobjective, hconstraints, rfl⟩⟩

omit [Scalar K] in
/-- The dense form of a program has the shape of one. -/
theorem shaped_dense (p : Program K) : Shaped p.coefficients p.matrix p.bounds where
  objective := rfl
  rows := by simp [matrix, bounds]
  row := by simp [matrix]

omit [Scalar K] in
/-- **Lists of the right shape are the dense form of a program.** -/
theorem Shaped.exists_program (h : Shaped objective matrix bounds) :
    ∃ p : Program K,
      p.coefficients = objective ∧ p.matrix = matrix ∧ p.bounds = bounds := by
  obtain ⟨a, b, rfl⟩ := List.length_eq_two.mp h.objective
  cases hrows : readRows 0 (matrix.zip bounds) with
  | error e =>
    obtain ⟨i, hi, hlength, -⟩ := of_readRows_eq_error hrows
    rw [List.getElem_zip] at hlength
    exact absurd (h.row _ (List.getElem_mem _)) hlength
  | ok cs =>
    exact ⟨⟨⟨a, b⟩, ⟨cs⟩⟩, rfl, (readRows_zip_eq_ok_iff h.rows).mp hrows⟩

/-! ### What is reported -/

/-- An accepted dense form meets with no objection. -/
theorem not_objection_of_eq_ok (h : ofDense? objective matrix bounds = .ok p)
    (e : ProgramError) :
    ¬ Objection objective matrix bounds e := by
  obtain ⟨⟨rfl, rfl, rfl⟩, hfinite⟩ := ofDense?_eq_ok_iff.mp h
  have hshape := shaped_dense p
  obtain ⟨hobjective, hmatrix, hbounds⟩ := allFinite_iff.mp hfinite
  intro hobjection
  cases hobjection with
  | objectiveLength length => exact length hshape.objective
  | boundCount length => exact length hshape.rows
  | rowLength found length => exact length (hshape.row _ (List.mem_of_getElem? found))
  | objectiveNotFinite found notFinite => simp [hobjective _ found] at notFinite
  | constraintNotFinite foundRow foundBound found notFinite =>
    rcases List.mem_append.mp found with found | found
    · simp [hmatrix _ (List.mem_of_getElem? foundRow) _ found] at notFinite
    · rw [List.mem_singleton] at found
      simp [found, hbounds _ (List.mem_of_getElem? foundBound)] at notFinite

/-- There is only one first objection: what an objection says follows from its place. -/
theorem FirstObjection.unique (h : FirstObjection objective matrix bounds e)
    (h' : FirstObjection objective matrix bounds e') : e = e' := by
  have hrank : e.rank = e'.rank := le_antisymm (h.2 e' h'.1) (h'.2 e h.1)
  obtain ⟨hobjection, -⟩ := h
  obtain ⟨hobjection', -⟩ := h'
  cases hobjection <;> cases hobjection' <;> simp_all [ProgramError.rank]

/-! An objection is not raised before those that do not apply. -/

section Rank

variable (h : Objection objective matrix bounds e)

include h

theorem Objection.boundCount_le (hobjective : objective.length = 2) (rows found : Nat) :
    (ProgramError.boundCount rows found).rank ≤ e.rank := by
  cases h with
  | objectiveLength length => exact absurd hobjective length
  | _ => simp [ProgramError.rank, Prod.Lex.toLex_le_toLex]

theorem Objection.rowLength_le (hobjective : objective.length = 2)
    (hlength : matrix.length = bounds.length)
    {i : Nat} (hbefore : ∀ j, ∀ hj : j < matrix.length, j < i → matrix[j].length = 2)
    (found : Nat) :
    (ProgramError.rowLength i found).rank ≤ e.rank := by
  cases h with
  | objectiveLength length => exact absurd hobjective length
  | boundCount length => exact absurd hlength length
  | @rowLength index row found length =>
    obtain ⟨hindex, rfl⟩ := List.getElem?_eq_some_iff.mp found
    have hi : i ≤ index := not_lt.mp fun hlt => length (hbefore index hindex hlt)
    simpa [ProgramError.rank, Prod.Lex.toLex_le_toLex] using hi
  | _ => simp [ProgramError.rank, Prod.Lex.toLex_le_toLex]

theorem Objection.objectiveNotFinite_le (hshape : Shaped objective matrix bounds) :
    ProgramError.objectiveNotFinite.rank ≤ e.rank := by
  cases h with
  | objectiveLength length => exact absurd hshape.objective length
  | boundCount length => exact absurd hshape.rows length
  | rowLength found length =>
    exact absurd (hshape.row _ (List.mem_of_getElem? found)) length
  | _ => simp [ProgramError.rank, Prod.Lex.toLex_le_toLex]

end Rank

/-- In the dense form of a program the numbers at a place are those of the constraint
there. -/
theorem not_isFinite_iff_dense {i : Nat} {c : Constraint K}
    (hc : p.constraints[i]? = some c) :
    c.isFinite = false ↔ ∃ row bound,
      p.matrix[i]? = some row ∧ p.bounds[i]? = some bound ∧
      ∃ a ∈ row ++ [bound], Scalar.isFinite a = false := by
  rw [Constraint.isFinite_eq_false_iff]
  simp [matrix, bounds, hc, or_assoc]

theorem Objection.constraintNotFinite_le
    (h : Objection p.coefficients p.matrix p.bounds e)
    (hobjective : p.objective.isFinite = true) {i : Nat}
    (hbefore : ∀ j, ∀ hj : j < p.constraints.length, j < i →
      p.constraints[j].isFinite = true) :
    (ProgramError.constraintNotFinite i).rank ≤ e.rank := by
  have hle := h.objectiveNotFinite_le (shaped_dense p)
  cases h with
  | objectiveNotFinite found notFinite =>
    simp [LinearForm.isFinite_eq_false_iff.mpr ⟨_, found, notFinite⟩] at hobjective
  | @constraintNotFinite index row bound a foundRow foundBound found notFinite =>
    have hindex : index < p.constraints.length := by
      simpa [matrix] using (List.getElem?_eq_some_iff.mp foundRow).1
    have hbad := (not_isFinite_iff_dense (List.getElem?_eq_getElem hindex)).mpr
      ⟨row, bound, foundRow, foundBound, a, found, notFinite⟩
    have hi : i ≤ index := not_lt.mp fun hlt => by simp [hbefore index hindex hlt] at hbad
    simpa [ProgramError.rank, Prod.Lex.toLex_le_toLex] using hi
  | _ => simp [ProgramError.rank, Prod.Lex.toLex_le_toLex] at hle

/-- The error of parts is the first objection to their dense form. -/
theorem firstObjection_of_ofParts?_eq_error (h : ofParts? f cs = .error e) :
    FirstObjection [f.a, f.b] (cs.map fun c => [c.form.a, c.form.b])
      (cs.map (·.bound)) e := by
  set p : Program K := ⟨f, ⟨cs⟩⟩
  rcases of_ofParts?_eq_error h with
    ⟨hobjective, rfl⟩ | ⟨hobjective, i, hi, hbad, hbefore, rfl⟩
  · obtain ⟨a, ha, hfinite⟩ := LinearForm.isFinite_eq_false_iff.mp hobjective
    exact ⟨.objectiveNotFinite ha hfinite,
      fun e' he' => he'.objectiveNotFinite_le (shaped_dense p)⟩
  · obtain ⟨row, bound, hrow, hbound, a, ha, hfinite⟩ :=
      (not_isFinite_iff_dense (p := p) (List.getElem?_eq_getElem hi)).mp hbad
    exact ⟨.constraintNotFinite hrow hbound ha hfinite,
      fun e' he' => Objection.constraintNotFinite_le (p := p) he' hobjective fun j _ hj =>
        hbefore j hj⟩

/-- **The error of a dense form is its first objection.** -/
theorem firstObjection_of_eq_error (h : ofDense? objective matrix bounds = .error e) :
    FirstObjection objective matrix bounds e := by
  unfold ofDense? at h
  split at h
  · next a b =>
    split at h
    · next hlength =>
      rcases bind_eq_error.mp h with hrows | ⟨cs, hrows, hparts⟩
      · obtain ⟨i, hi, hbad, hbefore, rfl⟩ := of_readRows_eq_error hrows
        have hi' : i < matrix.length := by simpa [List.length_zip, hlength] using hi
        simp only [List.getElem_zip, Nat.zero_add] at hbad hbefore ⊢
        exact ⟨.rowLength (List.getElem?_eq_getElem hi') hbad,
          fun e' he' => he'.rowLength_le rfl hlength (fun j _ hj => hbefore j hj) _⟩
      · obtain ⟨rfl, rfl⟩ := (readRows_zip_eq_ok_iff hlength).mp hrows
        exact firstObjection_of_ofParts?_eq_error hparts
    · next hlength =>
      cases h
      exact ⟨.boundCount hlength, fun e' he' => he'.boundCount_le rfl _ _⟩
  · next hpair =>
    cases h
    refine ⟨.objectiveLength fun hlength => ?_, fun e' he' => ?_⟩
    · obtain ⟨a, b, rfl⟩ := List.length_eq_two.mp hlength
      exact hpair a b rfl
    · cases he' <;> simp [ProgramError.rank, Prod.Lex.toLex_le_toLex]

theorem ofDense?_eq_error_iff :
    ofDense? objective matrix bounds = .error e ↔
      FirstObjection objective matrix bounds e := by
  refine ⟨firstObjection_of_eq_error, fun h => ?_⟩
  cases hdense : ofDense? objective matrix bounds with
  | ok p => exact absurd h.1 (not_objection_of_eq_ok hdense e)
  | error e' => rw [(firstObjection_of_eq_error hdense).unique h]

/-- **Lists are accepted as a dense form if and only if they have the shape of one and
their numbers are finite**, and then they are the dense form of the program. Otherwise
the first objection is reported. And the dense form of a program whose parts are
accepted is accepted as that program. -/
theorem ofDense?_accepts_or_objects :
    (∀ (objective : List K) (matrix : List (List K)) (bounds : List K),
      ((∃ p, ofDense? objective matrix bounds = .ok p) ↔ Shaped objective matrix bounds ∧
        (∀ a ∈ objective, Scalar.isFinite a = true) ∧
          (∀ row ∈ matrix, ∀ a ∈ row, Scalar.isFinite a = true) ∧
        ∀ b ∈ bounds, Scalar.isFinite b = true) ∧
      (∀ p, ofDense? objective matrix bounds = .ok p →
        p.coefficients = objective ∧ p.matrix = matrix ∧ p.bounds = bounds) ∧
      ∀ e, ofDense? objective matrix bounds = .error e ↔
        FirstObjection objective matrix bounds e) ∧
    (∀ (f : LinearForm K) (cs : List (Constraint K)) (p : Program K),
      ofParts? f cs = .ok p →
      ofDense? p.coefficients p.matrix p.bounds = .ok p) := by
  refine ⟨fun objective matrix bounds => ⟨⟨?_, ?_⟩,
    fun p h => (ofDense?_eq_ok_iff.mp h).1, fun e => ofDense?_eq_error_iff⟩,
    fun f cs p h => ?_⟩
  · rintro ⟨p, h⟩
    obtain ⟨⟨rfl, rfl, rfl⟩, hfinite⟩ := ofDense?_eq_ok_iff.mp h
    exact ⟨shaped_dense p, allFinite_iff.mp hfinite⟩
  · rintro ⟨hshape, hfinite⟩
    obtain ⟨p, rfl, rfl, rfl⟩ := hshape.exists_program
    exact ⟨p, ofDense?_eq_ok_iff.mpr ⟨⟨rfl, rfl, rfl⟩, allFinite_iff.mpr hfinite⟩⟩
  · obtain ⟨hobjective, hconstraints, rfl⟩ := ofParts?_eq_ok_iff.mp h
    exact ofDense?_eq_ok_iff.mpr ⟨⟨rfl, rfl, rfl⟩, hobjective, hconstraints⟩

/-- Lists of doubles with three things wrong: the second row is too long, the third too
short, and a coefficient of the objective is infinite. The second row is reported. The
sample program is the program of its dense form. -/
theorem ofDense?_accepts_or_objects_ragged :
    let matrix : List (List Float) := [[1.0, 1.0], [1.0, 1.0, 1.0], [0.0 / 0.0]]
    Objection [1.0, 1.0 / 0.0] matrix [4.0, 5.0, 6.0] .objectiveNotFinite ∧
    Objection [1.0, 1.0 / 0.0] matrix [4.0, 5.0, 6.0] (.rowLength 2 1) ∧
    ofDense? [1.0, 1.0 / 0.0] matrix [4.0, 5.0, 6.0] = .error (.rowLength 1 3) ∧
    FirstObjection [1.0, 1.0 / 0.0] matrix [4.0, 5.0, 6.0] (.rowLength 1 3) ∧
    ofDense? (K := Float) sample.coefficients sample.matrix sample.bounds
      = .ok sample := by
  intro matrix
  have herror : ofDense? [1.0, 1.0 / 0.0] matrix [4.0, 5.0, 6.0]
    = .error (.rowLength 1 3) := rfl
  have hparts : ofParts? (K := Float) sample.objective sample.constraints = .ok sample :=
    rfl
  have hrow : matrix[2]? = some [0.0 / 0.0] := rfl
  refine ⟨.objectiveNotFinite (a := 1.0 / 0.0) (by simp) rfl, .rowLength hrow (by decide),
    herror, ?_, ?_⟩
  · exact ((ofDense?_accepts_or_objects.1 _ _ _).2.2 _).mp herror
  · exact ofDense?_accepts_or_objects.2 _ _ _ hparts

end Program

end LatticeLP

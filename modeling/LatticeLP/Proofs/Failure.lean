import Mathlib.Data.List.Forall2

/-!
# Computations that fail

A computation that may fail ends with a result or with an error. Computations in turn
end with the error of the first one that fails, and with a result if none does. The
lemmas say this of two computations, of several, and of one whose error is passed on,
once for success and once for failure. Where the error itself does not matter, it is
left out (`Fails`).
-/

namespace LatticeLP

variable {ε ε' α β : Type} {x : Except ε α} {f : α → Except ε β}

/-- A computation ends with an error. -/
def Fails (x : Except ε α) : Prop :=
  ∃ e, x = .error e

@[simp] theorem not_fails_ok (a : α) : ¬ Fails (.ok a : Except ε α) :=
  fun ⟨_, h⟩ => nomatch h

@[simp] theorem fails_error (e : ε) : Fails (.error e : Except ε α) :=
  ⟨e, rfl⟩

instance : DecidablePred (Fails (ε := ε) (α := α)) := fun x =>
  match x with
  | .error e => isTrue (fails_error e)
  | .ok a => isFalse (not_fails_ok a)

@[simp] theorem not_fails_pure (a : α) : ¬ Fails (pure a : Except ε α) :=
  not_fails_ok a

@[simp] theorem pure_eq_ok {a b : α} : (pure a : Except ε α) = .ok b ↔ a = b :=
  ⟨Except.ok.inj, congrArg _⟩

@[simp] theorem pure_ne_error (a : α) (e : ε) : (pure a : Except ε α) ≠ .error e :=
  fun h => nomatch h

theorem exists_eq_ok_of_not_fails (h : ¬ Fails x) : ∃ a, x = .ok a := by
  cases x with
  | error e => exact absurd (fails_error e) h
  | ok a => exact ⟨a, rfl⟩

@[simp] theorem mapError_ok (g : ε → ε') (a : α) :
    (.ok a : Except ε α).mapError g = .ok a :=
  rfl

@[simp] theorem mapError_error (g : ε → ε') (e : ε) :
    (.error e : Except ε α).mapError g = .error (g e) :=
  rfl

@[simp] theorem fails_mapError (g : ε → ε') : Fails (x.mapError g) ↔ Fails x := by
  cases x <;> simp

theorem mapError_eq_ok {g : ε → ε'} {a : α} : x.mapError g = .ok a ↔ x = .ok a := by
  cases x <;> simp

theorem mapError_eq_error {g : ε → ε'} {e : ε'} :
    x.mapError g = .error e ↔ ∃ cause, x = .error cause ∧ g cause = e := by
  cases x <;> simp

theorem bind_eq_ok {b : β} : x >>= f = .ok b ↔ ∃ a, x = .ok a ∧ f a = .ok b := by
  cases x <;> simp [bind, Except.bind]

/-- The error of two computations in turn is that of one of them. -/
theorem bind_eq_error {e : ε} :
    x >>= f = .error e ↔ x = .error e ∨ ∃ a, x = .ok a ∧ f a = .error e := by
  cases x <;> simp [bind, Except.bind]

/-- Of two computations in turn, the first fails or, after its success, the second. -/
theorem fails_bind : Fails (x >>= f) ↔ Fails x ∨ ∃ a, x = .ok a ∧ Fails (f a) := by
  cases x <;> simp [bind, Except.bind]

/-- **Several computations in turn succeed** if each does, and their results are listed
in order. -/
theorem mapM_eq_ok_iff {as : List α} {bs : List β} :
    as.mapM f = .ok bs ↔ List.Forall₂ (fun a b => f a = .ok b) as bs := by
  induction as generalizing bs with
  | nil => cases bs <;> simp
  | cons a as ih =>
    simp only [List.mapM_cons, bind_eq_ok, ih, pure_eq_ok, List.forall₂_cons_left_iff]
    constructor
    · rintro ⟨b, hb, bs, hbs, rfl⟩
      exact ⟨b, bs, hb, hbs, rfl⟩
    · rintro ⟨b, bs, hb, hbs, rfl⟩
      exact ⟨b, hb, bs, hbs, rfl⟩

/-- Of several computations in turn, one fails. -/
theorem fails_mapM {as : List α} : Fails (as.mapM f) ↔ ∃ a ∈ as, Fails (f a) := by
  induction as with
  | nil => simp
  | cons a as ih =>
    simp only [List.mapM_cons, fails_bind, ih]
    cases h : f a <;> simp [h]

end LatticeLP

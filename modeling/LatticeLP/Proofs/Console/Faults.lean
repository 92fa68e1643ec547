import LatticeLP.Console.Session
import LatticeLP.Proofs.Failure

/-!
# What can be wrong with the settings

Five things can: a text is unreadable, be it the objective's or a constraint's, the
numbers make no program, the parameters fail their check, and the program has no optimum
(`Settings.Faulty`, which knows no order among them). These and no others keep a session
from its **task**, the lesson to be learned and the optimum to compare it with
(`faulty_iff`). Whichever of several is reported, it is an error and no breakdown
(`exitCode_of_task?_eq_error`).
-/

namespace LatticeLP

namespace Settings

variable {s : Settings} {lesson : Lesson Float} {exact : Optimum Float} {e : SessionError}

/-! ## Faulty settings -/

/-- **Something is wrong with the settings**, one thing at least. -/
inductive Faulty (s : Settings) : Prop where
  /-- The text of the objective is unreadable. -/
  | objective {text : String} (given : s.objective = some text)
      (unreadable : Fails (LinearForm.read? text))
  /-- The text of a constraint is unreadable. -/
  | constraint {text : String} (given : text ∈ s.constraints)
    (unreadable : Fails (Constraint.read? text))
  /-- The numbers make no program. -/
  | program {objective : LinearForm Float} {constraints : List (Constraint Float)}
      (hobjective : s.objective? = .ok objective)
      (hconstraints : s.constraints? = .ok constraints)
      (rejected : Fails (Program.ofParts? objective constraints))
  /-- The parameters fail the check. -/
  | params (rejected : Fails s.params.check)
  /-- The program has no optimum. -/
  | optimum {program : Program Float} (hprogram : s.program? = .ok program)
      (unsolved : Fails (program.optimum? .standard))

theorem fails_objective?_iff :
    Fails s.objective? ↔ ∃ text,
      s.objective = some text ∧ Fails (LinearForm.read? text) := by
  unfold objective?
  cases s.objective <;> simp

theorem fails_constraints?_iff :
    Fails s.constraints? ↔ ∃ text ∈ s.constraints, Fails (Constraint.read? text) := by
  unfold constraints?
  split
  · next hempty => simp [List.isEmpty_iff.mp hempty]
  · rw [fails_mapError, fails_mapM]

theorem fails_program?_iff :
    Fails s.program? ↔ Fails s.objective? ∨ Fails s.constraints? ∨
      ∃ objective constraints,
        s.objective? = .ok objective ∧ s.constraints? = .ok constraints ∧
        Fails (Program.ofParts? objective constraints) := by
  simp only [program?, fails_bind, fails_mapError]
  cases s.objective? <;> cases s.constraints? <;> simp

theorem lesson?_eq_ok_iff : s.lesson? = .ok lesson ↔
    ∃ program, s.program? = .ok program ∧ s.params.Valid ∧
      ⟨program, s.params, s.schedule⟩ = lesson := by
  simp only [lesson?, bind_eq_ok, mapError_eq_ok]
  constructor
  · rintro ⟨program, hprogram, ⟨⟩, valid, h⟩
    exact ⟨program, hprogram, valid, pure_eq_ok.mp h⟩
  · rintro ⟨program, hprogram, valid, rfl⟩
    exact ⟨program, hprogram, (), valid, rfl⟩

theorem fails_lesson?_iff :
    Fails s.lesson? ↔ Fails s.program? ∨ Fails s.params.check := by
  simp only [lesson?, fails_bind, fails_mapError]
  cases s.program? <;> simp

/-! ## The task -/

/-- **The task that the settings set**: what is to be learned, and the optimum to
compare it with. -/
def task? (s : Settings) : Except SessionError (Lesson Float × Optimum Float) := do
  let lesson ← s.lesson?
  let exact ← (lesson.program.optimum? .standard).mapError .solve
  pure (lesson, exact)

theorem task?_eq_ok_iff : s.task? = .ok (lesson, exact) ↔
    s.lesson? = .ok lesson ∧ lesson.program.optimum? .standard = .ok exact := by
  simp only [task?, bind_eq_ok, mapError_eq_ok]
  simp

/-- It is missed for want of a lesson or of an optimum. -/
theorem task?_eq_error_iff : s.task? = .error e ↔ s.lesson? = .error e ∨
    ∃ lesson, s.lesson? = .ok lesson ∧
      (lesson.program.optimum? .standard).mapError .solve = .error e := by
  simp only [task?, bind_eq_error]
  simp

/-- What is to be learned can be learned. -/
theorem valid_of_task?_eq_ok (h : s.task? = .ok (lesson, exact)) :
    lesson.params.Valid := by
  obtain ⟨_, _, valid, rfl⟩ := lesson?_eq_ok_iff.mp (task?_eq_ok_iff.mp h).1
  exact valid

theorem fails_task?_iff : Fails s.task? ↔
    Fails s.lesson? ∨ ∃ lesson,
      s.lesson? = .ok lesson ∧ Fails (lesson.program.optimum? .standard) := by
  simp only [task?, fails_bind, fails_mapError]
  simp

/-- **Settings have a task unless they are faulty.** -/
theorem faulty_iff : s.Faulty ↔ Fails s.task? := by
  rw [fails_task?_iff, fails_lesson?_iff, fails_program?_iff, fails_objective?_iff,
    fails_constraints?_iff]
  constructor
  · intro h
    cases h with
    | objective given unreadable => exact .inl (.inl (.inl ⟨_, given, unreadable⟩))
    | constraint given unreadable =>
      exact .inl (.inl (.inr (.inl ⟨_, given, unreadable⟩)))
    | program hobjective hconstraints rejected =>
      exact .inl (.inl (.inr (.inr ⟨_, _, hobjective, hconstraints, rejected⟩)))
    | params rejected => exact .inl (.inr rejected)
    | @optimum program hprogram unsolved =>
      -- the program is solved only if the parameters pass the check
      by_cases rejected : Fails s.params.check
      · exact .inl (.inr rejected)
      · obtain ⟨⟨⟩, valid⟩ := exists_eq_ok_of_not_fails rejected
        exact .inr ⟨_, lesson?_eq_ok_iff.mpr ⟨program, hprogram, valid, rfl⟩, unsolved⟩
  · rintro (((⟨text, given, unreadable⟩ | ⟨text, given, unreadable⟩ |
      ⟨objective, constraints, hobjective, hconstraints, rejected⟩) | rejected) |
      ⟨lesson, hlesson, unsolved⟩)
    · exact .objective given unreadable
    · exact .constraint given unreadable
    · exact .program hobjective hconstraints rejected
    · exact .params rejected
    · obtain ⟨program, hprogram, _, rfl⟩ := lesson?_eq_ok_iff.mp hlesson
      exact .optimum hprogram unsolved

instance (s : Settings) : Decidable s.Faulty :=
  decidable_of_iff _ faulty_iff.symm

/-! ## What is reported -/

/-- An error that is passed on in a way that is no breakdown. -/
theorem exitCode_of_mapError_eq_error {ε α : Type} {x : Except ε α} {f : ε → SessionError}
    (h : x.mapError f = .error e) (hf : ∀ cause, (f cause).exitCode = 1) :
    e.exitCode = 1 := by
  obtain ⟨cause, _, rfl⟩ := mapError_eq_error.mp h
  exact hf cause

theorem exitCode_of_objective?_eq_error (h : s.objective? = .error e) :
    e.exitCode = 1 := by
  unfold objective? at h
  split at h
  · cases h
  · exact exitCode_of_mapError_eq_error h fun _ => rfl

theorem exitCode_of_constraints?_eq_error (h : s.constraints? = .error e) :
    e.exitCode = 1 := by
  unfold constraints? at h
  split at h
  · cases h
  · exact exitCode_of_mapError_eq_error h fun _ => rfl

theorem exitCode_of_program?_eq_error (h : s.program? = .error e) : e.exitCode = 1 := by
  rcases bind_eq_error.mp h with hobjective | ⟨_, _, h⟩
  · exact exitCode_of_objective?_eq_error hobjective
  · rcases bind_eq_error.mp h with hconstraints | ⟨_, _, hprogram⟩
    · exact exitCode_of_constraints?_eq_error hconstraints
    · exact exitCode_of_mapError_eq_error hprogram fun _ => rfl

theorem exitCode_of_lesson?_eq_error (h : s.lesson? = .error e) : e.exitCode = 1 := by
  rcases bind_eq_error.mp h with hprogram | ⟨_, _, h⟩
  · exact exitCode_of_program?_eq_error hprogram
  · rcases bind_eq_error.mp h with hcheck | ⟨_, _, h⟩
    · exact exitCode_of_mapError_eq_error hcheck fun _ => rfl
    · cases h

/-- **A fault is an error and no breakdown.** -/
theorem exitCode_of_task?_eq_error (h : s.task? = .error e) : e.exitCode = 1 := by
  rcases task?_eq_error_iff.mp h with hlesson | ⟨_, _, hexact⟩
  · exact exitCode_of_lesson?_eq_error hlesson
  · exact exitCode_of_mapError_eq_error hexact fun _ => rfl

end Settings

end LatticeLP

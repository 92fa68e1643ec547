import LatticeLP.Proofs.Console.Faults
import LatticeLP.Proofs.Decimal.Literal
import LatticeLP.Proofs.Plane.DenseForm
import LatticeLP.Proofs.Text.Fields

/-!
# Programs given as texts

The objective and the constraints of a program are given as texts, each a list of
numbers. Which program the texts describe is said here by the grammar of numerals and of
lists alone (`Settings.Describe`), and it is the program that is read: nothing else is
accepted, and what is accepted comes to nothing else (`program?_eq_ok_iff`). There are
two readers for the texts, and a check of the numbers after them. They make up one
condition.

A program can be given by writing out its numbers, with commas between them and blanks
around them as one likes (`Text.Spells`), provided that each number can be read back
from its text.
-/

namespace LatticeLP

/-! ## Lists of numbers -/

/-- A number is read back from its text. -/
def ReadsBack (x : Float) : Prop :=
  readNumber? (numberText x).toList = .ok x

namespace Text

/-- **A text lists numbers**: its parts between commas are, but for the blanks around
them, literals of these numbers. -/
def Lists (text : String) (xs : List Float) : Prop :=
  List.Forall₂
    (fun part x => Numeral.IsLiteral (trim part) ∧ readNumber? (trim part) = .ok x)
    (splitAt ',' text.toList) xs

/-- **A text spells out numbers**: they are written out with commas between them and
blanks around them. -/
def Spells (text : String) (xs : List Float) : Prop :=
  ∃ parts, List.Forall₂ Padded (xs.map fun x => (numberText x).toList) parts ∧
    text.toList = [','].intercalate parts

variable {text : String} {xs : List Float}

/-- What can be read as a number is a literal. -/
theorem isLiteral_of_readNumber?_eq_ok {cs : List Char} {x : Float}
    (h : readNumber? cs = .ok x) :
    Numeral.IsLiteral cs := by
  refine Numeral.exists_read?_iff.mp ?_
  cases hread : Numeral.read? cs with
  | ok n => exact ⟨n, rfl⟩
  | error e =>
    rw [readNumber?, hread] at h
    cases h

/-- Of the parts it is enough that they can be read. -/
theorem lists_iff :
    Lists text xs ↔
      List.Forall₂ (fun cs x => readNumber? cs = .ok x) (fields text) xs := by
  rw [fields, List.forall₂_map_left_iff]
  exact ⟨List.Forall₂.imp fun _ _ h => h.2,
    List.Forall₂.imp fun _ _ h => ⟨isLiteral_of_readNumber?_eq_ok h, h⟩⟩

/-- **The numbers that are read from a text** are those that it lists. -/
theorem readNumbers?_eq_ok_iff {subject : Subject} :
    readNumbers? subject text = .ok xs ↔ Lists text xs := by
  have hread : readNumbers? subject text = .ok xs ↔
      (fields text).mapM readNumber? = .ok xs := by
    unfold readNumbers?
    cases (fields text).mapM readNumber? <;> simp
  rw [hread, mapM_eq_ok_iff, lists_iff]

/-- The parts of a text between commas are, but for the blanks around them, `n`
literals. -/
def HasLiterals (n : Nat) (text : String) : Prop :=
  (splitAt ',' text.toList).length = n ∧ ∀ part ∈ splitAt ',' text.toList,
    Numeral.IsLiteral (trim part)

theorem Lists.hasLiterals (h : Lists text xs) : HasLiterals xs.length text :=
  ⟨List.Forall₂.length_eq h, ((List.forall₂_and_left _ _).mp h).1⟩

/-- **Numbers that are spelled out are listed**, if each is read back from its text. -/
theorem Spells.lists (h : Spells text xs) (hne : xs ≠ [])
    (hread : ∀ x ∈ xs, ReadsBack x) : Lists text xs := by
  obtain ⟨parts, hparts, htext⟩ := h
  have hfields : fields text = xs.map fun x => (numberText x).toList :=
    fields_of_padded (by simp [solid_numberText]) hparts (by simpa using hne) htext
  rw [lists_iff, hfields, List.forall₂_map_left_iff]
  exact List.forall₂_same.mpr hread

end Text

/-! ## Objectives and constraints -/

namespace LinearForm

/-- The coefficients in the order in which they are written. -/
def numbers (f : LinearForm Float) : List Float :=
  [f.a, f.b]

theorem read?_eq_ok_iff {text : String} {f : LinearForm Float} :
    read? text = .ok f ↔ Text.Lists text f.numbers := by
  rw [read?, bind_eq_ok]
  constructor
  · rintro ⟨xs, hxs, h⟩
    split at h
    · cases h
      exact Text.readNumbers?_eq_ok_iff.mp hxs
    · cases h
  · intro h
    exact ⟨_, Text.readNumbers?_eq_ok_iff.mpr h, rfl⟩

end LinearForm

namespace Constraint

/-- The coefficients and the bound in the order in which they are written. -/
def numbers (c : Constraint Float) : List Float :=
  [c.form.a, c.form.b, c.bound]

theorem read?_eq_ok_iff {text : String} {c : Constraint Float} :
    read? text = .ok c ↔ Text.Lists text c.numbers := by
  rw [read?, bind_eq_ok]
  constructor
  · rintro ⟨xs, hxs, h⟩
    split at h
    · cases h
      exact Text.readNumbers?_eq_ok_iff.mp hxs
    · cases h
  · intro h
    exact ⟨_, Text.readNumbers?_eq_ok_iff.mpr h, rfl⟩

end Constraint

/-! ## Programs -/

/-- All numbers of a program in the order in which they are written. -/
def Program.numbers (p : Program Float) : List Float :=
  p.objective.numbers ++ p.constraints.flatMap Constraint.numbers

namespace Settings

open Text

variable {s : Settings} {p : Program Float} {text : String}

/-- **The settings describe a program**: its parts are listed in texts or, where there
are none, those of the sample program, and all numbers are finite. -/
structure Describe (s : Settings) (p : Program Float) : Prop where
  /-- The objective. -/
  objective : match s.objective with
    | none => p.objective = Program.sample.objective
    | some text => Lists text p.objective.numbers
  /-- The constraints, in the order of their texts. -/
  constraints : if s.constraints = [] then p.constraints = Program.sample.constraints
    else List.Forall₂ (fun text c => Lists text c.numbers) s.constraints p.constraints
  /-- All numbers are finite. -/
  allFinite : p.AllFinite

theorem objective?_eq_ok_iff {f : LinearForm Float} :
    s.objective? = .ok f ↔ match s.objective with
    | none => f = Program.sample.objective
    | some text => Lists text f.numbers := by
  unfold objective?
  cases s.objective with
  | none => simp [eq_comm]
  | some text => rw [mapError_eq_ok, LinearForm.read?_eq_ok_iff]

theorem constraints?_eq_ok_iff {cs : List (Constraint Float)} : s.constraints? = .ok cs ↔
    if s.constraints = [] then cs = Program.sample.constraints
    else List.Forall₂ (fun text c => Lists text c.numbers) s.constraints cs := by
  unfold constraints?
  by_cases hempty : s.constraints = []
  · simp [hempty, eq_comm]
  · rw [if_neg (mt List.isEmpty_iff.mp hempty), if_neg hempty, mapError_eq_ok,
      mapM_eq_ok_iff]
    simp only [Constraint.read?_eq_ok_iff]

/-- **The program that is read is the one that is described.** -/
theorem program?_eq_ok_iff : s.program? = .ok p ↔ s.Describe p := by
  simp only [program?, bind_eq_ok, mapError_eq_ok, objective?_eq_ok_iff,
    constraints?_eq_ok_iff, Program.ofParts?_eq_ok_iff]
  constructor
  · rintro ⟨f, hobjective, cs, hconstraints, hf, hcs, rfl⟩
    exact ⟨hobjective, hconstraints, hf, hcs⟩
  · rintro ⟨hobjective, hconstraints, hf, hcs⟩
    exact ⟨p.objective, hobjective, p.constraints, hconstraints, hf, hcs, rfl⟩

/-- A program that is spelled out is described. -/
theorem Describe.of_spells (hobjective : s.objective = some text)
    (htext : Spells text p.objective.numbers) (hne : p.constraints ≠ [])
    (hconstraints : List.Forall₂ (fun text c => Spells text c.numbers) s.constraints
      p.constraints) (hfinite : p.AllFinite)
        (hread : ∀ x ∈ p.numbers, ReadsBack x) : s.Describe p := by
  obtain ⟨hobjectives, hothers⟩ := List.forall_mem_append.mp hread
  have hne' : s.constraints ≠ [] :=
    fun h => hne (List.forall₂_nil_left_iff.mp (h ▸ hconstraints))
  refine ⟨?_, ?_, hfinite⟩
  · rw [hobjective]
    exact htext.lists (List.cons_ne_nil _ _) hobjectives
  · have hboth :=
      (List.forall₂_and_left _ _).mpr
        ⟨List.forall_mem_flatMap.mp hothers, hconstraints.flip⟩
    rw [if_neg hne']
    exact hboth.flip.imp fun _ _ h => Spells.lists h.2 (List.cons_ne_nil _ _) h.1

/-- Two literals are given for the objective, if any, and three for each constraint. -/
theorem Describe.hasLiterals (h : s.Describe p) :
    (∀ text, s.objective = some text → HasLiterals 2 text) ∧ ∀ text ∈ s.constraints,
      HasLiterals 3 text := by
  constructor
  · intro text htext
    have hlists := h.objective
    rw [htext] at hlists
    exact hlists.hasLiterals
  · intro text htext
    have hlists := h.constraints
    rw [if_neg (List.ne_nil_of_mem htext)] at hlists
    have hliterals :
      List.Forall₂ (fun text c => HasLiterals 3 text ∧ Lists text c.numbers) s.constraints
        p.constraints := hlists.imp fun _ _ h => ⟨h.hasLiterals, h⟩
    exact ((List.forall₂_and_left _ _).mp hliterals).1 text htext

/-- **Programs can be given as texts, and nothing else can.** A program of finite
numbers whose parts are spelled out is read back as it is, its constraints in their
order, if each of its numbers can be. What is read is in any case the program that the
texts describe: two literals for the objective and three for each constraint, of finite
numbers. -/
theorem program?_spelled_and_exact :
    (∀ (s : Settings) (p : Program Float) (text : String), s.objective = some text →
      Spells text p.objective.numbers → p.constraints ≠ [] →
      List.Forall₂ (fun text c => Spells text c.numbers) s.constraints p.constraints →
        p.AllFinite →
      (∀ x ∈ p.numbers, ReadsBack x) → s.program? = .ok p) ∧
    (∀ (s : Settings) (p : Program Float), s.program? = .ok p ↔ s.Describe p) ∧
    ∀ (s : Settings) (p : Program Float), s.program? = .ok p →
      (∀ text, s.objective = some text → HasLiterals 2 text) ∧
        (∀ text ∈ s.constraints, HasLiterals 3 text) ∧
        p.AllFinite := by
  refine ⟨fun s p text hobjective htext hne hconstraints hfinite hread => ?_,
    fun s p => program?_eq_ok_iff, fun s p h => ?_⟩
  · exact program?_eq_ok_iff.mpr
      (.of_spells hobjective htext hne hconstraints hfinite hread)
  · have hdescribe := program?_eq_ok_iff.mp h
    exact ⟨hdescribe.hasLiterals.1, hdescribe.hasLiterals.2, hdescribe.allFinite⟩

/-- Settings with blanks around the numbers of an objective and of two constraints. -/
def spaced : Settings :=
  { standard with
    objective := some " 1.5 ,-2"
    constraints := ["1,\t1,  4", "0 , 1, 2.5\n"] }

/-- The program that is spelled out there. -/
def spacedProgram : Program Float where
  objective := ⟨1.5, -2⟩
  region := ⟨[⟨⟨1, 1⟩, 4⟩, ⟨⟨0, 1⟩, 2.5⟩]⟩

theorem program?_spelled_and_exact_spaced :
    (Spells " 1.5 ,-2" spacedProgram.objective.numbers ∧
      List.Forall₂ (fun text c => Spells text c.numbers) spaced.constraints
        spacedProgram.constraints ∧
      spacedProgram.AllFinite ∧ ∀ x ∈ spacedProgram.numbers, ReadsBack x) ∧
    spaced.program? = .ok spacedProgram ∧ HasLiterals 2 " 1.5 ,-2" := by
  have htext : Spells " 1.5 ,-2" spacedProgram.objective.numbers :=
    ⟨[" 1.5 ".toList, "-2".toList],
      .cons ⟨[' '], [' '], by decide, by decide, by rfl⟩
        (.cons ⟨[], [], by decide, by decide, by rfl⟩ .nil), by rfl⟩
  have hconstraints :
    List.Forall₂ (fun text c => Spells text c.numbers) spaced.constraints
      spacedProgram.constraints := by
    refine .cons ⟨["1".toList, "\t1".toList, "  4".toList], ?_, by rfl⟩
      (.cons ⟨["0 ".toList, " 1".toList, " 2.5\n".toList], ?_, by rfl⟩ .nil)
    · exact .cons ⟨[], [], by decide, by decide, by rfl⟩
        (.cons ⟨['\t'], [], by decide, by decide, by rfl⟩
          (.cons ⟨[' ', ' '], [], by decide, by decide, by rfl⟩ .nil))
    · exact .cons ⟨[], [' '], by decide, by decide, by rfl⟩
        (.cons ⟨[' '], [], by decide, by decide, by rfl⟩
          (.cons ⟨[' '], ['\n'], by decide, by decide, by rfl⟩ .nil))
  have hfinite : spacedProgram.AllFinite := by decide
  have hread : ∀ x ∈ spacedProgram.numbers, ReadsBack x := by
    have hnumbers : spacedProgram.numbers = [1.5, -2, 1, 1, 4, 0, 1, 2.5] := rfl
    simp only [hnumbers, List.forall_mem_cons]
    exact ⟨rfl, rfl, rfl, rfl, rfl, rfl, rfl, rfl, fun _ h => nomatch h⟩
  have hprogram :=
    program?_spelled_and_exact.1 spaced spacedProgram " 1.5 ,-2" rfl htext (by decide)
      hconstraints hfinite hread
  exact ⟨⟨htext, hconstraints, hfinite, hread⟩, hprogram,
    (program?_spelled_and_exact.2.2 spaced spacedProgram hprogram).1 _ rfl⟩

end Settings

end LatticeLP

import Mathlib.Algebra.Order.Field.Rat
import Mathlib.Tactic.Ring
import LatticeLP.Proofs.Learner.Chance

/-!
# Multiples of an objective

Multiplying the objective of a program by a positive number changes what points are
worth, and nothing about which of them is worth more. A learner only ever compares
estimates with one another: the largest of several keys, the first to arrive among
equals, and the best entry of the table are the same for estimates that are all
multiplied by one positive number (`Scaled.argmax_eq`, `Scaled.best?_eq`) – unknown keys
included, since zero stays zero. The update rule is linear in estimates and rewards
together. So the learner makes the same choices, and its table is that of the original
objective with all estimates multiplied.

The arithmetic is exact: in rounded arithmetic a multiple may round to the other side.
-/

namespace LatticeLP

/-! ## Scaled objectives -/

/-- A linear form multiplied by a number. -/
def LinearForm.scale (c : Rat) (f : LinearForm Rat) : LinearForm Rat :=
  ⟨c * f.a, c * f.b⟩

/-- A program with its objective multiplied by a number. -/
def Program.scale (c : Rat) (p : Program Rat) : Program Rat :=
  { p with objective := p.objective.scale c }

/-- A lesson with the objective of its program multiplied by a number. -/
def Lesson.scale (c : Rat) (lesson : Lesson Rat) : Lesson Rat :=
  { lesson with program := lesson.program.scale c }

/-- An answer with its estimate and its objective multiplied by a number. -/
def Learned.scale (c : Rat) (a : Learned Rat) : Learned Rat :=
  { a with estimate := c * a.estimate, objective := c * a.objective }

theorem Program.value_scale (c : Rat) (p : Program Rat) (q : Point Rat) :
    (p.scale c).value q = c * p.value q := by
  show c * p.objective.a * q.x + c * p.objective.b * q.y
    = c * (p.objective.a * q.x + p.objective.b * q.y)
  ring

/-! ## Scaled tables -/

namespace Table

variable {c : Rat} {t t' : Table Rat}

/-- A value multiplied by a number, together with what it belongs to. -/
def multiple {α : Type} (c : Rat) (e : α × Rat) : α × Rat :=
  (e.1, c * e.2)

/-- The better of two entries is the better of their multiples. -/
theorem better_multiple (hc : 0 < c) (best : Option (Key × Rat)) (e : Key × Rat) :
    better (best.map (multiple c)) (multiple c e) = (better best e).map (multiple c) := by
  cases best with
  | none => rfl
  | some e₀ =>
    simp only [Option.map_some, better, multiple, mul_le_mul_iff_right₀ hc]
    split <;> rfl

/-- The better of two positions is the better one for the multiples of their values. -/
theorem betterIndex_multiple (hc : 0 < c) (best : Option (Nat × Rat)) (e : Rat × Nat) :
    betterIndex (best.map (multiple c)) (c * e.1, e.2)
      = (betterIndex best e).map (multiple c) := by
  cases best with
  | none => rfl
  | some e₀ =>
    simp only [Option.map_some, betterIndex, multiple, mul_lt_mul_iff_right₀ hc]
    split <;> rfl

/-- **A table holds the multiples of another**: the same keys arrived in the same order,
and all values are multiplied. -/
structure Scaled (c : Rat) (t t' : Table Rat) : Prop where
  /-- The keys are the same, in the same order. -/
  keys_eq : t'.keys = t.keys
  /-- All values are multiplied, and unknown keys read as zero in both. -/
  get_eq : ∀ k, t'.get k = c * t.get k

namespace Scaled

theorem empty (c : Rat) : Scaled c ∅ ∅ where
  keys_eq := rfl
  get_eq k := by rw [get_empty, mul_zero]

variable (h : Scaled c t t')

include h

theorem contains_eq (k : Key) : t'.contains k = t.contains k := by
  rw [Bool.eq_iff_iff, ← mem_keys, ← mem_keys, h.keys_eq]

theorem size_eq : t'.size = t.size := by
  rw [← length_keys, ← length_keys, h.keys_eq]

/-- Setting a value in the one table and its multiple in the other keeps them scaled. -/
theorem set (k : Key) (v : Rat) : Scaled c (t.set k v) (t'.set k (c * v)) where
  keys_eq := by rw [keys_set, keys_set, h.contains_eq, h.keys_eq]
  get_eq l := by
    rw [get_set, get_set, h.get_eq]
    split <;> rfl

/-- **The entries are multiples**, in the same order. -/
theorem entries_eq : t'.entries = t.entries.map (multiple c) := by
  rw [entries_eq_map, entries_eq_map, h.keys_eq, List.map_map]
  exact List.map_congr_left fun k _ => congrArg (Prod.mk k) (h.get_eq k)

variable (hc : 0 < c)

include hc

/-- **The best entry stays the best.** -/
theorem best?_eq : t'.best? = t.best?.map (multiple c) :=
  calc t'.best?
      = t.entries.foldl (fun best e => better best (multiple c e))
        (none.map (multiple c)) := by
        rw [best?, h.entries_eq, List.foldl_map]
        rfl
    _ = t.best?.map (multiple c) := List.foldl_hom _ (better_multiple hc)

/-- **The highest valued key stays the highest valued.** -/
theorem argmax_eq (candidates : List Key) :
    t'.argmax candidates = t.argmax candidates := by
  have hvalues : (candidates.map t'.get).zipIdx
      = (candidates.map t.get).zipIdx.map fun e => (c * e.1, e.2) := by
    rw [show t'.get = (c * ·) ∘ t.get from funext h.get_eq, ← List.map_map,
      List.zipIdx_map]
    rfl
  have hfold : (candidates.map t'.get).zipIdx.foldl betterIndex none
      = ((candidates.map t.get).zipIdx.foldl betterIndex none).map (multiple c) :=
    calc (candidates.map t'.get).zipIdx.foldl betterIndex none
        = (candidates.map t.get).zipIdx.foldl
          (fun best e => betterIndex best (c * e.1, e.2))
            (none.map (multiple c)) := by
          rw [hvalues, List.foldl_map]
          rfl
      _ = _ := List.foldl_hom _ (betterIndex_multiple hc)
  rw [argmax, argmax, hfold]
  cases (candidates.map t.get).zipIdx.foldl betterIndex none <;> rfl

end Scaled

end Table

/-- Any decision leads to the same move. -/
theorem Policy.carryOut_of_scaled {c : Rat} (hc : 0 < c) {t t' : Table Rat}
    (h : t.Scaled c t')
    (π : Policy Rat) (p : Point Rat) (moves : List Move) (d : Decision) :
    π.carryOut t' p moves d = π.carryOut t p moves d := by
  cases d with
  | explore index => rfl
  | exploit => rw [carryOut, carryOut, greedy, greedy, h.argmax_eq hc]

/-! ## Scaled lessons -/

/-- An answer for the multiple of an objective is the answer for the objective,
multiplied. -/
theorem Learned.ofTable?_scale {c : Rat} (hc : 0 < c) (program : Program Rat)
    {t t' : Table Rat}
    (h : t.Scaled c t') :
    ofTable? (program.scale c) t' = (ofTable? program t).map (scale c) := by
  rw [ofTable?, ofTable?, h.best?_eq hc, Option.map_map, Option.map_map]
  refine congrArg (Option.map · _) (funext fun e => ?_)
  show ofEntry (program.scale c) e.1 (c * e.2) = scale c (ofEntry program e.1 e.2)
  rw [ofEntry, program.value_scale]
  rfl

namespace Lesson

variable {c : Rat} {lesson : Lesson Rat} {l l' : Learner Rat} {t t' : Table Rat}

/-- Rewards are multiplied, and where there is none there is none. -/
theorem reward_scale (c : Rat) (lesson : Lesson Rat) (step : Nat) (p : Point Rat) :
    (lesson.scale c).reward step p = c * lesson.reward step p := by
  unfold reward
  rw [mul_ite, mul_zero, ← Program.value_scale]
  rfl

/-- **The update rule is linear**, so it keeps tables scaled. -/
theorem scaled_learn (h : t.Scaled c t') (lesson : Lesson Rat) (s s' : Key) (r : Rat) :
    (lesson.learn t s s' r).Scaled c ((lesson.scale c).learn t' s s' (c * r)) := by
  have hestimate : (lesson.scale c).estimate t' s s' (c * r)
      = c * lesson.estimate t s s' r := by
    rw [estimate, estimate, h.get_eq, h.get_eq]
    show (1 - lesson.params.alpha) * (c * t.get s)
        + lesson.params.alpha * (c * r + lesson.params.gamma * (c * t.get s'))
      = c * ((1 - lesson.params.alpha) * t.get s
        + lesson.params.alpha * (r + lesson.params.gamma * t.get s'))
    ring
  rw [learn, learn, hestimate]
  exact h.set s _

/-- The region and the length of a run are not changed. -/
theorem sameShape_scale (c : Rat) (lesson : Lesson Rat) :
    lesson.SameShape (lesson.scale c) :=
  ⟨fun _ => Iff.rfl, rfl, rfl⟩

/-- The random stream is not either. -/
theorem drawsAlike_scale (c : Rat) (lesson : Lesson Rat) :
    lesson.DrawsAlike (lesson.scale c) :=
  ⟨rfl, rfl, rfl, rfl, rfl⟩

/-- **The same position is tried** for a multiple of the objective. -/
theorem candidate_scale (hc : 0 < c) (hdraws : l'.draws = l.draws)
    (hposition : l'.position = l.position) (h : l.table.Scaled c l'.table) :
    (lesson.scale c).candidate l' = lesson.candidate l := by
  have hrandom : l'.random = l.random := congrArg Draws.random hdraws
  have hepisode : l'.episode = l.episode := congrArg Draws.episode hdraws
  have hchoice : ((lesson.scale c).choice l').1 = (lesson.choice l).1 := by
    rw [choice_eq, choice_eq, hrandom, hepisode, hposition,
      Policy.carryOut_of_scaled hc h]
    rfl
  rw [candidate, candidate, hchoice, hposition]
  rfl

/-- **A positive multiple of the objective is learned in the same way.** -/
theorem simulation_scale (hc : 0 < c) (lesson : Lesson Rat) :
    Simulation lesson (lesson.scale c) fun l l' =>
      l.Abreast l' ∧ l'.draws = l.draws ∧ l'.tally = l.tally ∧
        l.table.Scaled c l'.table := by
  rintro l l' o m ⟨habreast, hdraws, htally, hscaled⟩ ht
  obtain ⟨m', ht', habreast'⟩ := ht.abreast (sameShape_scale c lesson) habreast
    (candidate_scale hc hdraws habreast.position hscaled)
  refine ⟨m', ht', habreast', ?_, ?_, ?_⟩
  · rw [ht.draws_eq, ht'.draws_eq, hdraws, (drawsAlike_scale c lesson).redraw_eq]
  · rw [ht.tally_eq, ht'.tally_eq, habreast.tallyAfter_eq hscaled.size_eq htally]
  · rw [ht.table_eq, ht'.table_eq]
    match o with
    | some (.accepted p) =>
      rw [tableAfter, tableAfter, habreast.position, habreast.step, reward_scale]
      exact scaled_learn hscaled lesson _ _ _
    | some (.rejected _) | none => exact hscaled

/-- **Positive homogeneity in the objective.** A run for a positive multiple of the
objective has the same outcomes, and after any number of calls its learner differs in
the table alone, whose entries are the multiples of those for the objective itself, in
the same order. Its answer is the same key and point, with estimate and objective
multiplied. -/
theorem advances_scale (hc : 0 < c) (lesson : Lesson Rat) (n : Nat) :
    (lesson.scale c).outcomes n (lesson.scale c).start = lesson.outcomes n lesson.start ∧
    (lesson.scale c).advances n (lesson.scale c).start
      = { lesson.advances n lesson.start with
          table := ((lesson.scale c).advances n (lesson.scale c).start).table } ∧
    ((lesson.scale c).advances n (lesson.scale c).start).table.entries
      = (lesson.advances n lesson.start).table.entries.map (Table.multiple c) ∧
    (lesson.scale c).solution? ((lesson.scale c).advances n (lesson.scale c).start)
      = (lesson.solution? (lesson.advances n lesson.start)).map (Learned.scale c) := by
  obtain ⟨houtcomes, habreast, hdraws, htally, hscaled⟩ :=
    (simulation_scale hc lesson).run
      ⟨abreast_start lesson (lesson.scale c), rfl, rfl, .empty c⟩ n
  have hrandom : ((lesson.scale c).advances n (lesson.scale c).start).random
    = (lesson.advances n lesson.start).random := congrArg Draws.random hdraws
  have hlearner := habreast.eq
  rw [hrandom, htally] at hlearner
  exact ⟨houtcomes.symm, hlearner, hscaled.entries_eq,
    Learned.ofTable?_scale hc _ hscaled⟩

/-- The trial lesson without exploring, for a third of its objective. -/
theorem advances_scale_trial :
    (0 : Rat) < 1 / 3 ∧
    cautiousTrial.solution? (cautiousTrial.advances 6 cautiousTrial.start)
      = some ⟨⟨13, 0, 1⟩, ⟨13 / 10, 0⟩, 45 / 2, 13⟩ ∧
    (cautiousTrial.scale (1 / 3)).solution?
        ((cautiousTrial.scale (1 / 3)).advances 6 (cautiousTrial.scale (1 / 3)).start)
      = some ⟨⟨13, 0, 1⟩, ⟨13 / 10, 0⟩, 15 / 2, 13 / 3⟩ := by
  have hc : (0 : Rat) < 1 / 3 := by decide +kernel
  have hsolution : cautiousTrial.solution? (cautiousTrial.advances 6 cautiousTrial.start)
      = some ⟨⟨13, 0, 1⟩, ⟨13 / 10, 0⟩, 45 / 2, 13⟩ := by
    decide +kernel
  refine ⟨hc, hsolution, ?_⟩
  rw [(advances_scale hc cautiousTrial 6).2.2.2, hsolution]
  decide +kernel

end Lesson

end LatticeLP

import LatticeLP.Proofs.Learner.KeyRange

/-!
# Which parameters give distinct keys

Within reach a key is the rounded point, coordinate by coordinate. So the lattice points
of an episode have distinct keys if and only if the **marks** `0, u, 2 u, …` up to the
number of steps round to distinct integers, where `u` is the step in units of the last
digit that keys keep.

Rounding keeps the order. If the marks round to distinct integers, these increase, so
that the last mark rounds to no less than its number. And if it does, all are distinct:
if `u` is one or more, since rounding a number that is larger by one gives an integer
that is larger by one, and if `u` is less than one, since then no mark is more than a
half behind its number. In terms of the parameters, the marks must not fall behind by
more than a half in all the steps (`injOn_mark_iff`).

The check of parameters bounds the last mark from above, and bounds nothing from below.
So it passes steps that are too fine for the keys, and different points of an episode
may then share a key (`exists_shared_key`).
-/

namespace LatticeLP

/-! ## Marks on an axis -/

/-- **The integer to which a multiple of a step rounds**, the step being measured in
units of the last digit. -/
def mark (u : Rat) (i : Nat) : Int :=
  roundRational (i * u)

variable {u : Rat} {i m : Nat}

@[simp] theorem mark_zero (u : Rat) : mark u 0 = 0 := by
  rw [mark, Nat.cast_zero, zero_mul, roundRational_zero]

theorem mark_mono (hu : 0 ≤ u) : Monotone (mark u) := fun _ _ h =>
  roundRational_mono (mul_le_mul_of_nonneg_right (Nat.cast_le.mpr h) hu)

theorem mark_eq_floor (hu : 0 ≤ u) (i : Nat) : mark u i = ⌊i * u + 1 / 2⌋ :=
  roundRational_of_nonneg (by positivity)

/-- A mark rounds to its number or beyond if it is not more than a half behind. -/
theorem le_mark_iff (hu : 0 ≤ u) : (i : Int) ≤ mark u i ↔ i * (1 - u) ≤ 1 / 2 := by
  rw [mark_eq_floor hu, Int.le_floor, Int.cast_natCast]
  constructor
  · intro h
    linarith
  · intro h
    linarith

/-- **Marks that are at least a unit apart round to different integers.** -/
theorem strictMono_mark (hu : 1 ≤ u) : StrictMono (mark u) := by
  have hu' : 0 ≤ u := zero_le_one.trans hu
  refine strictMono_nat_of_lt_succ fun i => ?_
  have hnext : (i * u + 1 / 2) + 1 ≤ (i + 1 : Nat) * u + 1 / 2 := by
    push_cast
    linarith
  rw [mark_eq_floor hu', mark_eq_floor hu', ← Int.add_one_le_iff, ← Int.floor_add_one]
  exact Int.floor_le_floor hnext

/-- Marks that are less than a unit apart round to their numbers as long as they are not
more than a half behind. -/
theorem mark_eq_of_lt_one (hu : 0 ≤ u) (hu' : u < 1) (hi : i * (1 - u) ≤ 1 / 2) :
    mark u i = i := by
  have hlast : (i : Rat) * u ≤ i := mul_le_of_le_one_right (Nat.cast_nonneg i) hu'.le
  refine le_antisymm ?_ ((le_mark_iff hu).mpr hi)
  rw [mark_eq_floor hu, ← Int.lt_add_one_iff, Int.floor_lt]
  push_cast
  linarith

/-- Marks that round to different integers round to their numbers or beyond. -/
theorem le_mark_of_injOn (hu : 0 ≤ u) (h : Set.InjOn (mark u) (Set.Iic m)) (hi : i ≤ m) :
    (i : Int) ≤ mark u i := by
  induction i with
  | zero => exact (mark_zero u).ge
  | succ i ih =>
    have hi' : i ≤ m := Nat.le_of_succ_le hi
    have hne : mark u i ≠ mark u (i + 1) :=
      fun heq => Nat.succ_ne_self i (h hi' hi heq).symm
    have hlt : mark u i < mark u (i + 1) :=
      lt_of_le_of_ne (mark_mono hu (Nat.le_succ i)) hne
    rw [Nat.cast_succ]
    exact (add_le_add_left (ih hi') 1).trans hlt

/-- **The marks up to `m` round to distinct integers if and only if the last is not more
than a half behind.** -/
theorem injOn_mark_iff (hu : 0 ≤ u) :
    Set.InjOn (mark u) (Set.Iic m) ↔ m * (1 - u) ≤ 1 / 2 := by
  refine ⟨fun h => (le_mark_iff hu).mp (le_mark_of_injOn hu h le_rfl), fun h => ?_⟩
  rcases le_or_gt 1 u with hcoarse | hfine
  · exact (strictMono_mark hcoarse).injective.injOn
  · have hmark : ∀ i ≤ m, mark u i = i := fun i hi =>
      mark_eq_of_lt_one hu hfine
        ((mul_le_mul_of_nonneg_right (Nat.cast_le.mpr hi)
          (sub_nonneg.mpr hfine.le)).trans h)
    intro i hi j hj hij
    rw [hmark i hi, hmark j hj] at hij
    exact Nat.cast_injective hij

/-! ## Keys -/

namespace Params

variable {params : Params Rat}

/-- The key of a lattice point of the quadrant. -/
def latticeKey (params : Params Rat) (i j : Nat) : Key :=
  Key.ofPoint params.precision ⟨i * params.step, j * params.step⟩

/-- **The key of a lattice point is made of two marks.** -/
theorem Valid.latticeKey_eq (valid : params.Valid) {i j : Nat}
    (hij : i + j ≤ params.steps) :
    params.latticeKey i j = ⟨mark (params.step * 10 ^ params.precision) i,
      mark (params.step * 10 ^ params.precision) j, params.precision⟩ := by
  obtain ⟨hx, hy⟩ := OnLattice.abs_le valid.step_pos.le ⟨i, j, hij, rfl⟩
  rw [mul_comm (params.steps : Rat)] at hx hy
  rw [latticeKey, valid.ofPoint_of_abs_le hx hy]
  simp only [mark, mul_assoc]

/-- **Keys tell the lattice points of an episode apart**: no two points of the quadrant
within its number of steps share one. -/
def TellsApart (params : Params Rat) : Prop :=
  ∀ i j k l : Nat, i + j ≤ params.steps → k + l ≤ params.steps → (i, j) ≠ (k, l) →
    params.latticeKey i j ≠ params.latticeKey k l

/-- **Valid parameters give distinct keys if and only if the multiples of the step, in
units of the last digit, are not more than a half behind in the end.** So they do if a
step is at least a unit. -/
theorem tellsApart_iff (valid : params.Valid) :
    (params.TellsApart ↔
      params.steps * (1 - params.step * 10 ^ params.precision) ≤ 1 / 2) ∧
    (1 ≤ params.step * 10 ^ params.precision → params.TellsApart) := by
  have hstep := valid.step_pos.le
  have hu : 0 ≤ params.step * 10 ^ params.precision := by positivity
  have hiff : params.TellsApart ↔
      params.steps * (1 - params.step * 10 ^ params.precision) ≤ 1 / 2 := by
    rw [← injOn_mark_iff hu]
    constructor
    · -- points on the first axis are enough
      intro h i hi k hk hmarks
      by_contra hne
      refine h i 0 k 0 hi hk (fun heq => hne (congrArg Prod.fst heq)) ?_
      rw [valid.latticeKey_eq hi, valid.latticeKey_eq hk, hmarks]
    · intro h i j k l hij hkl hne hkeys
      have hi : i ≤ params.steps := (Nat.le_add_right i j).trans hij
      have hj : j ≤ params.steps := (Nat.le_add_left j i).trans hij
      have hk : k ≤ params.steps := (Nat.le_add_right k l).trans hkl
      have hl : l ≤ params.steps := (Nat.le_add_left l k).trans hkl
      rw [valid.latticeKey_eq hij, valid.latticeKey_eq hkl, Key.mk.injEq] at hkeys
      exact hne (congrArg₂ Prod.mk (h hi hk hkeys.1) (h hj hl hkeys.2.1))
  refine ⟨hiff, fun hcoarse => hiff.mpr ?_⟩
  have hbehind : params.steps * (1 - params.step * 10 ^ params.precision) ≤ 0 :=
    mul_nonpos_of_nonneg_of_nonpos (Nat.cast_nonneg _) (sub_nonpos.mpr hcoarse)
  linarith

/-- The standard parameters tell their lattice points apart. -/
theorem tellsApart_iff_standard :
    (standard : Params Rat).Valid ∧ (standard : Params Rat).TellsApart := by
  have valid : (standard : Params Rat).Valid := by decide +kernel
  exact ⟨valid, (tellsApart_iff valid).2 (by decide +kernel)⟩

/-- An episode of two greedy steps, each of a tenth of a unit. -/
def fine : Params Rat :=
  { standard with epsilon := 0, step := 1 / 100, episodes := 1, steps := 2 }

/-- **Valid parameters may give different points the same key.** A run that moves from
the origin to a second point and on to a third has taken them all for one. -/
theorem exists_shared_key :
    fine.Valid ∧ ¬ fine.TellsApart ∧ fine.latticeKey 0 0 = fine.latticeKey 1 0 ∧
    let lesson : Lesson Rat := ⟨.sample, fine, .constant⟩
    (lesson.run lesson.start).trajectory = [⟨1 / 100, 0⟩, ⟨2 / 100, 0⟩] ∧
      (lesson.run lesson.start).table.size = 1 := by
  have hshared : fine.latticeKey 0 0 = fine.latticeKey 1 0 := by decide +kernel
  have hapart : ¬ fine.TellsApart :=
    fun h => h 0 0 1 0 (by decide) (by decide) (by decide) hshared
  refine ⟨by decide +kernel, hapart, hshared, ?_⟩
  decide +kernel

end Params

end LatticeLP

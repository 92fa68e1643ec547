import LatticeLP.Proofs.Learner.Chance
import LatticeLP.Proofs.Learner.TableLog

/-!
# The move that is chosen

An exploiting step takes the first of the moves whose successors read the highest
estimate (`greedy_eq_first_highest`). A successor is read by its key, so that several
moves may read the same estimate, and one that was never set reads zero; ties go to the
order of the list, whatever the order of the moves as such.

An exploring step takes the move at an index that is drawn. The index is the upper part
of the product of a half-word and the bound, to which the carry of a second product may
be added. That carry does not lead to the bound: the lower part of the first product is
large enough for a carry only where the upper part is below the last index (`index_lt`).
So a drawn index is below any positive bound (`below_lt`), and the move one of the list.
-/

namespace LatticeLP

/-! ## Drawn indices -/

namespace RandomStream

theorem half_lt (r : RandomStream) : r.half.1.toNat < 2 ^ 32 := by
  have hword := r.next.1.toNat_lt
  show (r.next.1 >>> 32).toNat < 2 ^ 32
  rw [UInt64.toNat_shiftRight, Nat.shiftRight_eq_div_pow]
  exact Nat.div_lt_of_lt_mul hword

/-- The upper half of a word. -/
theorem toNat_upper (word : UInt64) : (word >>> 32).toNat = word.toNat / 2 ^ 32 := by
  rw [UInt64.toNat_shiftRight, Nat.shiftRight_eq_div_pow]
  rfl

/-- The lower half of a word. -/
theorem toNat_lower (word : UInt64) :
    (word &&& 0xffffffff).toNat = word.toNat % 2 ^ 32 := by
  rw [UInt64.toNat_and]
  exact Nat.and_two_pow_sub_one_eq_mod _ 32

/-- **How an index is drawn.** -/
theorem below_eq (bound : Nat) (r : RandomStream) :
    r.below bound =
      if (r.half.1 * bound.toUInt64) &&& 0xffffffff > 0x100000000 - bound.toUInt64 then
        (((r.half.1 * bound.toUInt64) >>> (32 : UInt64)
          + (((r.half.1 * bound.toUInt64) &&& 0xffffffff)
            + ((r.half.2.half.1 * bound.toUInt64) >>> (32 : UInt64)))
            >>> (32 : UInt64)).toNat,
          r.half.2.half.2)
      else (((r.half.1 * bound.toUInt64) >>> (32 : UInt64)).toNat, r.half.2) := by
  unfold below
  generalize r.half = drawn
  obtain ⟨h, r⟩ := drawn
  dsimp only

/-- **The carry does not lead to the bound**, which is taken as a word. -/
theorem index_lt {h h' bound : Nat} (hh : h < 2 ^ 32) (hh' : h' < 2 ^ 32)
    (hbound : 0 < bound) :
    h * (bound % 2 ^ 64) % 2 ^ 64 / 2 ^ 32
      + (h * (bound % 2 ^ 64) % 2 ^ 64 % 2 ^ 32 + h' * (bound % 2 ^ 64) % 2 ^ 64 / 2 ^ 32)
        / 2 ^ 32
      < bound := by
  have hle : bound % 2 ^ 64 ≤ bound := Nat.mod_le _ _
  have hlt : bound % 2 ^ 64 < 2 ^ 64 := Nat.mod_lt _ (by decide)
  generalize bound % 2 ^ 64 = n at *
  have hp : h * n ≤ (2 ^ 32 - 1) * n := Nat.mul_le_mul_right n (by omega)
  have hq : h' * n ≤ (2 ^ 32 - 1) * n := Nat.mul_le_mul_right n (by omega)
  -- a bound of more than half a word is beyond all sums of an upper half and a carry
  rcases Nat.lt_trichotomy n (2 ^ 32) with hsmall | rfl | hlarge
  · omega
  · omega
  · omega

/-- **A drawn index is below the bound.** -/
theorem below_lt {bound : Nat} (hbound : 0 < bound) (r : RandomStream) :
    (r.below bound).1 < bound := by
  have hword : bound.toUInt64.toNat = bound % 2 ^ 64 := UInt64.toNat_ofNat'
  have hindex := index_lt r.half_lt r.half.2.half_lt hbound
  rw [← hword, ← UInt64.toNat_mul, ← UInt64.toNat_mul] at hindex
  have hp := UInt64.toNat_lt (r.half.1 * bound.toUInt64)
  have hq := UInt64.toNat_lt (r.half.2.half.1 * bound.toUInt64)
  rw [below_eq]
  split
  · rw [UInt64.toNat_add, toNat_upper (_ + _), UInt64.toNat_add, toNat_lower, toNat_upper,
      toNat_upper]
    omega
  · rw [toNat_upper]
    exact (Nat.le_add_right _ _).trans_lt hindex

end RandomStream

/-! ## Choosing -/

namespace Policy

variable {K : Type} [Scalar K] {π : Policy K} {t : Table K} {p : Point K}
  {moves : List Move}

omit [Scalar K] in
/-- A position of the list needs no default. -/
theorem getElem?_eq_some_getD {i : Nat} (h : i < moves.length) (m : Move) :
    moves[i]? = some (moves.getD i m) := by
  rw [List.getD_eq_getElem?_getD, List.getElem?_eq_getElem h, Option.getD_some]

/-- **An exploiting step takes the first of the moves whose successors read the highest
estimate.** -/
theorem greedy_eq_first_highest (hK : Ordered K) (hself : ∀ e ∈ t.entries, e.2 ≤ e.2)
    (hne : moves ≠ []) :
    ∃ i x, moves[i]? = some (π.greedy t p moves) ∧
      FirstHighest (fun m => some (t.get (π.successor p m))) moves i x := by
  have hcandidates : moves.map (π.successor p) ≠ [] :=
    fun h => hne (List.map_eq_nil_iff.mp h)
  obtain ⟨x, hx⟩ := Table.firstHighest_argmax hK (Table.get_le_get hK hself) hcandidates
  have hfirst := FirstHighest.map_iff.mp hx
  have hlt := lt_length_of_readAt? hfirst.readAt?_eq
  exact ⟨_, x, getElem?_eq_some_getD hlt .right, hfirst⟩

/-- If no other successor reads a higher estimate than that of the first move, the first
move is taken. -/
theorem greedy_cons_eq (hK : Ordered K) (hself : ∀ e ∈ t.entries, e.2 ≤ e.2) {m : Move}
    (h : ∀ m' ∈ moves, t.get (π.successor p m') ≤ t.get (π.successor p m)) :
    π.greedy t p (m :: moves) = m := by
  have hm := Table.get_le_get hK hself (π.successor p m)
  have hfirst : FirstHighest (fun m => some (t.get (π.successor p m))) (m :: moves) 0
      (t.get (π.successor p m)) := by
    refine ⟨rfl, fun j y hy => ?_, fun j hj => absurd hj (Nat.not_lt_zero j)⟩
    obtain ⟨m', hmem, ⟨⟩⟩ := exists_mem_of_readAt? hy
    exact (List.mem_cons.mp hmem).elim (fun heq => heq ▸ hm) (h m')
  obtain ⟨i, x, htaken, hhighest⟩ :=
    greedy_eq_first_highest hK hself (List.cons_ne_nil m moves) (π := π) (p := p)
  rw [hhighest.index_eq hfirst] at htaken
  exact (Option.some.inj htaken).symm

/-- An exploring step takes the move at the index that is drawn. -/
theorem select_of_lt {r : RandomStream} {ε : K} (h : (r.probability (K := K)).1 < ε)
    (hne : moves ≠ []) :
    moves[((r.probability (K := K)).2.below moves.length).1]?
      = some (π.select r t p ε moves).1 := by
  have hlt :=
    RandomStream.below_lt (List.length_pos_of_ne_nil hne) (r.probability (K := K)).2
  have hselect : (π.select r t p ε moves).1
    = π.carryOut t p moves (r.decision ε moves.length).1 := rfl
  rw [hselect, RandomStream.decision_eq_ite, if_pos h]
  exact getElem?_eq_some_getD hlt .right

/-- Any other step takes the move that looks best. -/
theorem select_of_not_lt {r : RandomStream} {ε : K}
    (h : ¬ (r.probability (K := K)).1 < ε) :
    (π.select r t p ε moves).1 = π.greedy t p moves := by
  have hselect : (π.select r t p ε moves).1
    = π.carryOut t p moves (r.decision ε moves.length).1 := rfl
  rw [hselect, RandomStream.decision_of_not_lt h]
  rfl

/-- **A step takes the best of the moves, or one that is drawn.** If the estimates are
numbers, then among any moves, in any order and with repetitions, the exploiting choice
is the first whose successor reads the highest estimate. A choice is made of the list in
any case: it is the move at an index that is drawn if the first draw is below the rate,
and the exploiting choice if it is not. -/
theorem select_highest_or_drawn (hK : Ordered K) (π : Policy K)
    (hself : ∀ e ∈ t.entries, e.2 ≤ e.2) (p : Point K) (hne : moves ≠ []) :
    (∃ i x, moves[i]? = some (π.greedy t p moves) ∧
      FirstHighest (fun m => some (t.get (Key.ofPoint π.precision (m.apply p π.step))))
        moves i x) ∧
    ∀ (r : RandomStream) (ε : K),
      ((r.probability (K := K)).1 < ε → ∃ index,
        index = ((r.probability (K := K)).2.below moves.length).1 ∧
        moves[index]? = some (π.select r t p ε moves).1) ∧
      (¬ (r.probability (K := K)).1 < ε →
        (π.select r t p ε moves).1 = π.greedy t p moves) :=
  ⟨greedy_eq_first_highest hK hself hne, fun _ _ =>
    ⟨fun h => ⟨_, rfl, select_of_lt h hne⟩, select_of_not_lt⟩⟩

/-- Estimates around the origin, all of which are below zero. -/
def lowlands : Table Float :=
  (∅ : Table Float).setAll
    [(⟨3, 0, 1⟩, -2), (⟨-3, 0, 1⟩, -1), (⟨0, 3, 1⟩, -1), (⟨0, -3, 1⟩, -(1 / 0))]

/-- Two of the listed moves tie. The first of them in the list is not the first in the
order of moves, and it is listed again. One seed leads to it; another one explores and
draws the second move. -/
theorem select_highest_or_drawn_lowlands :
    let π : Policy Float := ⟨1, 0.3⟩
    let moves : List Move := [.down, .right, .up, .left, .up]
    Ordered Float ∧ (∀ e ∈ lowlands.entries, e.2 ≤ e.2) ∧ moves ≠ [] ∧
      π.greedy lowlands .origin moves = .up ∧
      (∃ i x, moves[i]? = some .up ∧
        FirstHighest (fun m => some (lowlands.get (Key.ofPoint 1 (m.apply .origin 0.3))))
          moves i x) ∧
      (π.select (.ofSeed 1) lowlands .origin 0.5 moves).1 = .up ∧
      (π.select (.ofSeed 0) lowlands .origin 0.5 moves).1 = .right := by
  intro π moves
  have hself : ∀ e ∈ lowlands.entries, e.2 ≤ e.2 := by decide +kernel
  have hne : moves ≠ [] := List.cons_ne_nil _ _
  have hgreedy : π.greedy lowlands .origin moves = .up := by decide +kernel
  obtain ⟨hhighest, hchoice⟩ := select_highest_or_drawn ordered_double π hself .origin hne
  rw [hgreedy] at hhighest
  have hexploits : ¬ ((RandomStream.ofSeed 1).probability (K := Float)).1 < 0.5 := by
    decide +kernel
  have hexplores : ((RandomStream.ofSeed 0).probability (K := Float)).1 < 0.5 := by
    decide +kernel
  have hdrawn :
      (((RandomStream.ofSeed 0).probability (K := Float)).2.below moves.length).1
        = 1 := by
    decide +kernel
  obtain ⟨index, hindex, htaken⟩ := (hchoice (.ofSeed 0) 0.5).1 hexplores
  rw [hindex, hdrawn] at htaken
  exact ⟨ordered_double, hself, hne, hgreedy, hhighest,
    ((hchoice (.ofSeed 1) 0.5).2 hexploits).trans hgreedy, (Option.some.inj htaken).symm⟩

end Policy

end LatticeLP

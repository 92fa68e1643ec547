import Mathlib.Algebra.Order.Field.Rat
import Mathlib.Tactic.Linarith
import Mathlib.Tactic.Ring
import LatticeLP.Scalar.Rational
import LatticeLP.Tableau.Ascent

/-!
# Choosing among limits with a tolerance

The limits on a growing column are gone through once, and the one chosen so far gives
way to the next unless it precedes it. Ratios within the tolerance of each other
**tie**, and of two limits that tie the one whose basic variable comes first is kept.

One comparison does what it should: its winner outranks both (`Limit.exists_choose`).
The whole choice need not, since ties are not transitive. A limit that ties with the one
chosen so far may take its place though it does not tie with those chosen before, and
each such exchange may raise the ratio by the tolerance
(`Limit.ratio_le_of_foldl_choose`). Where the limits fall into classes – where two that
tie with a third tie with each other – the choice outranks them all
(`Limit.outranks_of_foldl_choose`). With the tolerance at zero they always do, since to
tie is then to be equal.
-/

namespace LatticeLP

namespace Limit

variable {tolerance : Rat} {a b c : Limit Rat} {limits : List (Limit Rat)}

/-- **Two limits tie**: their ratios are within the tolerance of each other. -/
def Ties (tolerance : Rat) (a b : Limit Rat) : Prop :=
  |a.ratio - b.ratio| ≤ tolerance

/-- **A limit outranks another**: it is smaller beyond the tolerance, or the two tie and
its basic variable comes no later. -/
def Outranks (tolerance : Rat) (a b : Limit Rat) : Prop :=
  a.ratio + tolerance < b.ratio ∨ (a.Ties tolerance b ∧ a.basic ≤ b.basic)

/-- **Limits fall into classes**: those that tie with the same one tie with each other. -/
def Classed (tolerance : Rat) (limits : List (Limit Rat)) : Prop :=
  ∀ a ∈ limits, ∀ b ∈ limits, ∀ c ∈ limits, a.Ties tolerance b → b.Ties tolerance c →
    a.Ties tolerance c

theorem Ties.symm (h : a.Ties tolerance b) : b.Ties tolerance a := by
  rw [Ties, abs_sub_comm]
  exact h

/-- With the tolerance at zero only equal ratios tie. -/
theorem ties_zero_iff : a.Ties 0 b ↔ a.ratio = b.ratio := by
  rw [Ties, abs_nonpos_iff, sub_eq_zero]

theorem classed_zero (limits : List (Limit Rat)) : Classed 0 limits := by
  intro a _ b _ c _ hab hbc
  rw [ties_zero_iff] at hab hbc ⊢
  exact hab.trans hbc

theorem Classed.mono {sub : List (Limit Rat)} (h : Classed tolerance limits)
    (hsub : sub ⊆ limits) :
    Classed tolerance sub :=
  fun a ha b hb c hc => h a (hsub ha) b (hsub hb) c (hsub hc)

/-- Ratios that do not tie are further apart than the tolerance, one way or the other. -/
theorem lt_or_lt_of_not_ties (h : ¬ a.Ties tolerance b) :
    a.ratio + tolerance < b.ratio ∨ b.ratio + tolerance < a.ratio := by
  rcases lt_abs.mp (not_le.mp h) with hgt | hlt
  · exact .inr (by linarith)
  · exact .inl (by linarith)

theorem not_ties_of_lt (h : a.ratio + tolerance < b.ratio) :
    ¬ a.Ties tolerance b := fun hties => by
  linarith [(abs_le.mp hties).1]

theorem Outranks.refl (h0 : 0 ≤ tolerance) (a : Limit Rat) : a.Outranks tolerance a := by
  refine .inr ⟨?_, le_rfl⟩
  rw [Ties, sub_self, abs_zero]
  exact h0

/-- What outranks a limit is at most the tolerance above it. -/
theorem Outranks.ratio_le (h0 : 0 ≤ tolerance) (h : a.Outranks tolerance b) :
    a.ratio ≤ b.ratio + tolerance := by
  rcases h with hlt | ⟨hties, _⟩
  · linarith
  · linarith [(abs_le.mp hties).2]

/-- **Outranking is transitive among limits that fall into classes.** -/
theorem Outranks.trans (h0 : 0 ≤ tolerance) (hclassed : Classed tolerance limits)
    (ha : a ∈ limits) (hb : b ∈ limits) (hc : c ∈ limits) (hab : a.Outranks tolerance b)
    (hbc : b.Outranks tolerance c) : a.Outranks tolerance c := by
  rcases hab with hab | ⟨hab, hbasic⟩ <;> rcases hbc with hbc | ⟨hbc, hbasic'⟩
  · exact .inl (by linarith)
  · have hac : ¬ a.Ties tolerance c := fun hties =>
      not_ties_of_lt hab (hclassed a ha c hc b hb hties hbc.symm)
    rcases lt_or_lt_of_not_ties hac with hlt | hgt
    · exact .inl hlt
    · linarith [(abs_le.mp hbc).2]
  · have hac : ¬ a.Ties tolerance c := fun hties =>
      not_ties_of_lt hbc (hclassed b hb a ha c hc hab.symm hties)
    rcases lt_or_lt_of_not_ties hac with hlt | hgt
    · exact .inl hlt
    · linarith [(abs_le.mp hab).2]
  · exact .inr ⟨hclassed a ha b hb c hc hab hbc, hbasic.trans hbasic'⟩

/-! ## One comparison -/

/-- A limit that stays chosen outranks the other one. -/
theorem outranks_of_precedes (h : a.Precedes tolerance b) : a.Outranks tolerance b := by
  rcases h with hlt | ⟨hge, hbasic⟩
  · exact .inl hlt
  · rcases lt_or_ge (a.ratio + tolerance) b.ratio with hlt | hle
    · exact .inl hlt
    · exact .inr ⟨abs_le.mpr ⟨by linarith, by linarith⟩, hbasic.le⟩

/-- A limit that is given up is outranked. -/
theorem outranks_of_not_precedes (h : ¬ a.Precedes tolerance b) :
    b.Outranks tolerance a := by
  rw [Precedes, not_or, not_and] at h
  obtain ⟨hle, htie⟩ := h
  rcases lt_or_ge b.ratio (a.ratio - tolerance) with hlt | hge
  · exact .inl (by linarith)
  · exact .inr ⟨abs_le.mpr ⟨by linarith, by linarith⟩, not_lt.mp (htie hge)⟩

/-- **The winner of a comparison outranks both.** -/
theorem exists_choose (h0 : 0 ≤ tolerance) (a b : Limit Rat) :
    ∃ w, choose tolerance (some a) b = some w ∧ (w = a ∨ w = b) ∧
      w.Outranks tolerance a ∧ w.Outranks tolerance b := by
  rw [choose]
  split
  · next h => exact ⟨a, rfl, .inl rfl, .refl h0 a, outranks_of_precedes h⟩
  · next h => exact ⟨b, rfl, .inr rfl, outranks_of_not_precedes h, .refl h0 b⟩

/-! ## All comparisons -/

/-- A fold over limits ends at one of them, whatever the tolerance. -/
theorem exists_foldl_choose {K : Type} [Scalar K] (tolerance : K) (a : Limit K)
    (limits : List (Limit K)) :
    ∃ b ∈ a :: limits, limits.foldl (choose tolerance) (some a) = some b := by
  induction limits generalizing a with
  | nil => exact ⟨a, List.mem_singleton_self a, rfl⟩
  | cons c limits ih =>
    rw [List.foldl_cons, choose]
    split
    · obtain ⟨b, hb, heq⟩ := ih a
      exact ⟨b, by grind, heq⟩
    · obtain ⟨b, hb, heq⟩ := ih c
      exact ⟨b, List.mem_cons_of_mem a hb, heq⟩

/-- **The choice is at most one tolerance a comparison above any limit.** -/
theorem ratio_le_of_foldl_choose (h0 : 0 ≤ tolerance)
    (h : limits.foldl (choose tolerance) (some a) = some b) :
    ∀ c ∈ a :: limits, b.ratio ≤ c.ratio + limits.length * tolerance := by
  induction limits generalizing a with
  | nil =>
    intro c hc
    rw [List.mem_singleton.mp hc, ← Option.some.inj h, List.length_nil,
      Nat.cast_zero, zero_mul, add_zero]
  | cons d limits ih =>
    rw [List.foldl_cons] at h
    obtain ⟨w, hw, _, hwa, hwd⟩ := exists_choose h0 a d
    rw [hw] at h
    have hrest := ih h
    -- the winner is a tolerance above the loser, and the choice further above the winner
    have hwinner : ∀ c, w.Outranks tolerance c →
        b.ratio ≤ c.ratio + (d :: limits).length * tolerance := fun c hwc => by
      have hle := hrest w List.mem_cons_self
      have hstep := hwc.ratio_le h0
      rw [List.length_cons, Nat.cast_succ, add_mul, one_mul]
      linarith
    intro c hc
    rcases List.mem_cons.mp hc with rfl | hc
    · exact hwinner c hwa
    · rcases List.mem_cons.mp hc with rfl | hc
      · exact hwinner c hwd
      · have hle := hrest c (List.mem_cons_of_mem w hc)
        rw [List.length_cons, Nat.cast_succ, add_mul, one_mul]
        linarith

/-- **Among limits that fall into classes the choice outranks them all.** -/
theorem outranks_of_foldl_choose (h0 : 0 ≤ tolerance)
    (hclassed : Classed tolerance (a :: limits))
    (h : limits.foldl (choose tolerance) (some a) = some b) :
    ∀ c ∈ a :: limits, b.Outranks tolerance c := by
  induction limits generalizing a with
  | nil =>
    intro c hc
    rw [List.mem_singleton.mp hc, ← Option.some.inj h]
    exact .refl h0 a
  | cons d limits ih =>
    rw [List.foldl_cons] at h
    obtain ⟨w, hw, hwmem, hwa, hwd⟩ := exists_choose h0 a d
    rw [hw] at h
    have hsub : w :: limits ⊆ a :: d :: limits := by
      rcases hwmem with rfl | rfl <;> grind
    have hrest := ih (hclassed.mono hsub) h
    obtain ⟨b', hb', heq⟩ := exists_foldl_choose tolerance w limits
    obtain rfl : b' = b := Option.some.inj (heq.symm.trans h)
    -- the loser of the first comparison is outranked by its winner, which is outranked
    -- in turn
    have hwinner : ∀ c ∈ a :: d :: limits, w.Outranks tolerance c →
        b'.Outranks tolerance c :=
      fun c hc => (hrest w List.mem_cons_self).trans h0 hclassed (hsub hb')
        (hsub List.mem_cons_self) hc
    intro c hc
    rcases List.mem_cons.mp hc with rfl | hrestc
    · exact hwinner c hc hwa
    · rcases List.mem_cons.mp hrestc with rfl | hrestc
      · exact hwinner c hc hwd
      · exact hrest c (List.mem_cons_of_mem w hrestc)

end Limit

end LatticeLP

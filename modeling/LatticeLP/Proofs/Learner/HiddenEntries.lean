import Mathlib.Data.List.DropRight
import LatticeLP.Proofs.Learner.TableLog
import LatticeLP.Proofs.Learner.Transitions

/-!
# Entries hidden by a value that is no number

The best entry of a table is meant to be the one of the highest value, and it is, as
long as the values are numbers (`best?_eq_some_iff`). A value that is no number compares
with nothing. The search keeps an entry only if the next one is at most as high, so it
takes up such a value whatever was best before, and gives it up for whatever comes next.
Everything in front of it is forgotten.

So the search is a search of the **last stretch** of the table, the entries behind the
last one whose value is no number, and if there are none, that one is the answer
(`best?_eq_some_iff_lastStretch`). It finds the highest number of the whole table if and
only if an entry of that height stands behind all the values that are no numbers
(`best?_of_lastStretch`). The order is that of the first arrivals, and so a value may
hide others long after its key was entered.

The search for the best of several candidates goes up by strict comparisons, which such
a value never passes. And it takes no odd settings to come across one: `overflowing` is
a run of a program of finite numbers, under parameters that pass the check, that learns
an infinite value and answers with no number at all.
-/

namespace LatticeLP

namespace Table

variable {K : Type} [Scalar K] {t : Table K} {es : List (Key × K)} {e b : Key × K}

/-! ## The last stretch -/

/-- **The last stretch of a list of entries**: those behind the last one whose value is
no number. -/
def lastStretch (es : List (Key × K)) : List (Key × K) :=
  es.rtakeWhile fun e => decide (e.2 ≤ e.2)

theorem self_of_mem_lastStretch (h : e ∈ lastStretch es) : e.2 ≤ e.2 :=
  of_decide_eq_true
    (List.mem_rtakeWhile_imp (p := fun e : Key × K => decide (e.2 ≤ e.2)) h)

/-- A list of entries is its last stretch, or it has an entry before that whose value is
no number. -/
theorem eq_or_exists_append_lastStretch (es : List (Key × K)) :
    lastStretch es = es ∨ ∃ front b, es = front ++ b :: lastStretch es ∧ ¬ b.2 ≤ b.2 := by
  have hsplit : es.rdropWhile (fun e => decide (e.2 ≤ e.2)) ++ lastStretch es = es :=
    List.rdropWhile_append_rtakeWhile
  have hlast := List.rdropWhile_last_not (fun e : Key × K => decide (e.2 ≤ e.2)) es
  generalize es.rdropWhile (fun e => decide (e.2 ≤ e.2)) = front at hsplit hlast
  rcases List.eq_nil_or_concat front with rfl | ⟨front, b, rfl⟩
  · exact .inl hsplit
  · exact .inr ⟨front, b, by simpa using hsplit.symm, by simpa using hlast⟩

/-- **An entry is in the last stretch if it stands behind all the values that are no
numbers.** -/
theorem mem_lastStretch_iff : e ∈ lastStretch es ↔
    ∃ i : Nat, es[i]? = some e ∧ ∀ (j : Nat) (f : Key × K), es[j]? = some f →
      ¬ f.2 ≤ f.2 → j < i := by
  have hnumbers : ∀ f ∈ lastStretch es, f.2 ≤ f.2 := fun _ => self_of_mem_lastStretch
  rcases eq_or_exists_append_lastStretch es with hwhole | ⟨front, b, hsplit, hb⟩
  · rw [hwhole] at hnumbers ⊢
    constructor
    · intro he
      obtain ⟨i, hi⟩ := List.getElem?_of_mem he
      exact ⟨i, hi, fun j f hf hnot => absurd (hnumbers f (List.mem_of_getElem? hf)) hnot⟩
    · rintro ⟨i, hi, _⟩
      exact List.mem_of_getElem? hi
  · generalize lastStretch es = stretch at hsplit hnumbers
    -- positions beyond that of `b` are those of the stretch
    have hbeyond : ∀ i, es[front.length + 1 + i]? = stretch[i]? := fun i => by
      rw [hsplit, List.getElem?_append_right (by omega),
        show front.length + 1 + i - front.length = i + 1 by omega,
        List.getElem?_cons_succ]
    constructor
    · intro he
      obtain ⟨i, hi⟩ := List.getElem?_of_mem he
      refine ⟨front.length + 1 + i, (hbeyond i).trans hi, fun j f hf hnot => ?_⟩
      by_contra hle
      obtain ⟨k, rfl⟩ := Nat.exists_eq_add_of_le (show front.length + 1 ≤ j by omega)
      rw [hbeyond k] at hf
      exact hnot (hnumbers f (List.mem_of_getElem? hf))
    · rintro ⟨i, hi, hbehind⟩
      have hlt : front.length < i := hbehind front.length b (by rw [hsplit]; simp) hb
      obtain ⟨k, rfl⟩ := Nat.exists_eq_add_of_le (show front.length + 1 ≤ i from hlt)
      rw [hbeyond k] at hi
      exact List.mem_of_getElem? hi

/-! ## The search -/

/-- A value that is no number is taken up, whatever was best before. -/
theorem foldl_better_append_of_not_self (hK : Separated K) (hb : ¬ b.2 ≤ b.2)
    (front es : List (Key × K)) :
    (front ++ b :: es).foldl better none = es.foldl better (some b) := by
  rw [List.foldl_append, List.foldl_cons]
  cases front.foldl better none with
  | none => rfl
  | some leader =>
    have htaken : better (some leader) b = some b :=
      if_neg fun h => hb (hK.self_of_le b.2 leader.2 h).1
    rw [htaken]

/-- It is given up for whatever comes next. -/
theorem foldl_better_cons_of_not_self (hK : Separated K) (hb : ¬ b.2 ≤ b.2) (e : Key × K)
    (es : List (Key × K)) :
    (e :: es).foldl better (some b) = (e :: es).foldl better none := by
  have htaken : better (some b) e = some e :=
    if_neg fun h => hb (hK.self_of_le e.2 b.2 h).2
  rw [List.foldl_cons, htaken]
  rfl

/-- **The best entry is the first of the highest in the last stretch**, or the last
entry of all if that stretch is empty. -/
theorem best?_eq_some_iff_lastStretch (hK : Separated K) : t.best? = some e ↔
    (∃ i, (lastStretch t.entries)[i]? = some e ∧
      FirstHighest (some ∘ Prod.snd) (lastStretch t.entries) i e.2) ∨
    lastStretch t.entries = [] ∧ t.entries.getLast? = some e := by
  have hnumbers : ∀ e ∈ lastStretch t.entries, e.2 ≤ e.2 :=
    fun _ => self_of_mem_lastStretch
  rw [← foldl_better_eq_some_iff hK.toComparable hnumbers]
  show t.entries.foldl better none = some e ↔ _
  rcases eq_or_exists_append_lastStretch t.entries with hwhole | ⟨front, b, hsplit, hb⟩
  · rw [hwhole, or_iff_left]
    rintro ⟨hnil, hlast⟩
    rw [hnil] at hlast
    cases hlast
  · generalize lastStretch t.entries = stretch at hsplit
    rw [hsplit, foldl_better_append_of_not_self hK hb]
    cases stretch with
    | nil => simp
    | cons a stretch => simp [foldl_better_cons_of_not_self hK hb]

/-! ## What it finds -/

/-- **A value tops a list of entries**: it is a number, and none of the numbers among
them is higher. -/
structure Tops (es : List (Key × K)) (x : K) : Prop where
  /-- It is a number. -/
  self : x ≤ x
  /-- It is at least as high as all the others. -/
  le : ∀ e ∈ es, e.2 ≤ e.2 → e.2 ≤ x

/-- **The best entry tops a table if and only if some entry in the last stretch does.** -/
theorem exists_best?_tops_iff (hK : Separated K) :
    (∃ e, t.best? = some e ∧ Tops t.entries e.2) ↔
    ∃ e ∈ lastStretch t.entries, Tops t.entries e.2 := by
  constructor
  · rintro ⟨e, hbest, htops⟩
    refine ⟨e, ?_, htops⟩
    rcases (best?_eq_some_iff_lastStretch hK).mp hbest with ⟨i, hi, _⟩ | ⟨hnil, hlast⟩
    · exact List.mem_of_getElem? hi
    · -- the last entry of all is a number, so that it is in the stretch
      rcases eq_or_exists_append_lastStretch t.entries with
        hwhole | ⟨front, b, hsplit, hb⟩
      · rw [hwhole]
        exact List.mem_of_getLast? hlast
      · rw [hsplit, hnil, List.getLast?_concat, Option.some.injEq] at hlast
        exact absurd (hlast ▸ htops.self) hb
  · rintro ⟨e, he, htops⟩
    cases hbest : t.best? with
    | none =>
      obtain ⟨i, hi, _⟩ := mem_lastStretch_iff.mp he
      have hpos :=
        List.length_pos_of_mem (mem_keys.mpr (mem_entries.mp (List.mem_of_getElem? hi)).1)
      rw [length_keys, best?_eq_none_iff.mp hbest] at hpos
      exact absurd hpos (Nat.lt_irrefl 0)
    | some f =>
      rcases (best?_eq_some_iff_lastStretch hK).mp hbest with ⟨i, hi, hfirst⟩ | ⟨hnil, _⟩
      · obtain ⟨j, hj⟩ := List.getElem?_of_mem he
        have hle : e.2 ≤ f.2 := hfirst.le j e.2 (by rw [readAt?, hj]; rfl)
        exact ⟨f, rfl, self_of_mem_lastStretch (List.mem_of_getElem? hi),
          fun g hg hself =>
          hK.trans g.2 e.2 f.2 (htops.le g hg hself) hle⟩
      · rw [hnil] at he
        cases he

/-- **The search sees the last stretch of what is recorded.** After any settings, of
numbers or not, the best entry is the first of the highest among the recorded entries
behind the last one whose value is no number, or that one if it is the last of all. So
it is a number at least as high as all numbers that are recorded if and only if an entry
of that height is recorded behind all values that are no numbers. -/
theorem best?_of_lastStretch (hK : Separated K) (log : List (Key × K)) :
    let t := (∅ : Table K).setAll log
    (∀ e, t.best? = some e ↔
      (∃ i, (lastStretch (recorded log))[i]? = some e ∧
        FirstHighest (some ∘ Prod.snd) (lastStretch (recorded log)) i e.2) ∨
      lastStretch (recorded log) = [] ∧ (recorded log).getLast? = some e) ∧
    ((∃ e, t.best? = some e ∧ Tops (recorded log) e.2) ↔
      ∃ (i : Nat) (e : Key × K), (recorded log)[i]? = some e ∧ Tops (recorded log) e.2 ∧
        ∀ (j : Nat) (f : Key × K), (recorded log)[j]? = some f → ¬ f.2 ≤ f.2 →
          j < i) := by
  intro t
  have hentries : t.entries = recorded log := (records_setAll log).entries_eq
  rw [← hentries]
  refine ⟨fun e => best?_eq_some_iff_lastStretch hK, (exists_best?_tops_iff hK).trans ?_⟩
  constructor
  · rintro ⟨e, he, htops⟩
    obtain ⟨i, hi, hbehind⟩ := mem_lastStretch_iff.mp he
    exact ⟨i, e, hi, htops, hbehind⟩
  · rintro ⟨i, e, hi, htops, hbehind⟩
    exact ⟨e, mem_lastStretch_iff.mpr ⟨i, hi, hbehind⟩, htops⟩

/-- Five settings of four keys, the first of which is set again, and to no number. -/
def reset : List (Key × Float) :=
  [(⟨0, 0, 1⟩, 5), (⟨3, 0, 1⟩, 2.5), (⟨6, 0, 1⟩, -(1 / 0)), (⟨9, 0, 1⟩, 2.5),
    (⟨0, 0, 1⟩, 0 / 0)]

/-- The value that is no number stands in front of all others, although it was set last,
and hides none. -/
theorem best?_of_lastStretch_reset : Separated Float ∧
    lastStretch (recorded reset)
      = [(⟨3, 0, 1⟩, 2.5), (⟨6, 0, 1⟩, -(1 / 0)), (⟨9, 0, 1⟩, 2.5)] ∧
    ((∅ : Table Float).setAll reset).best? = some (⟨3, 0, 1⟩, 2.5) ∧
    ∃ e, ((∅ : Table Float).setAll reset).best? = some e ∧ Tops (recorded reset) e.2 := by
  have hstretch : lastStretch (recorded reset)
      = [(⟨3, 0, 1⟩, 2.5), (⟨6, 0, 1⟩, -(1 / 0)), (⟨9, 0, 1⟩, 2.5)] := by
    decide +kernel
  have htops : Tops (recorded reset) 2.5 := ⟨by decide +kernel, by decide +kernel⟩
  have hmem : (⟨3, 0, 1⟩, 2.5) ∈ lastStretch (recorded reset) :=
    hstretch ▸ List.mem_cons_self
  obtain ⟨i, hi, hbehind⟩ := mem_lastStretch_iff.mp hmem
  exact ⟨separated_double, hstretch, by decide +kernel,
    (best?_of_lastStretch separated_double reset).2.mpr ⟨i, _, hi, htops, hbehind⟩⟩

/-! ## What it misses -/

/-- Three settings, the second of which is to no number. -/
def broken : List (Key × Float) :=
  [(⟨0, 0, 1⟩, 5), (⟨3, 0, 1⟩, 0 / 0), (⟨6, 0, 1⟩, 3)]

/-- Two greedy episodes of two steps along the first axis, for an objective that
overflows at `(200, 0)`. An estimate is replaced as a whole, so that an infinite one is
first multiplied by zero. -/
def overflowing : Lesson Float where
  program := ⟨⟨1e308, 1⟩, ⟨[]⟩⟩
  params :=
    { Params.standard with
      epsilon := 0
      alpha := 1
      step := 100
      episodes := 2
      steps := 2 }
  schedule := .constant

/-- **A value that is no number hides higher ones.** A table in which five is recorded
finds three, and a run of valid parameters that has learned an infinite value answers
with no number. -/
theorem exists_hidden_entry :
    (∃ e ∈ recorded broken, ∃ f, ((∅ : Table Float).setAll broken).best? = some f ∧
      e.2 ≤ e.2 ∧ ¬ e.2 ≤ f.2) ∧
    ∃ l₀, overflowing.start? = .ok l₀ ∧ ∃ e ∈ (overflowing.run l₀).table.entries,
      e.2 ≤ e.2 ∧
      ∃ a, overflowing.solution? (overflowing.run l₀) = some a ∧
        ¬ a.estimate ≤ a.estimate := by
  constructor
  · have hbroken : recorded broken = broken := by decide +kernel
    have hfive : (⟨0, 0, 1⟩, 5) ∈ recorded broken := hbroken ▸ List.mem_cons_self
    have hfound : ((∅ : Table Float).setAll broken).best? = some (⟨6, 0, 1⟩, 3) := by
      decide +kernel
    exact ⟨_, hfive, _, hfound, by decide +kernel, by decide +kernel⟩
  · have hvalid : overflowing.params.Valid := by decide +kernel
    have hlearned : (overflowing.run overflowing.start).table.entries
        = [(⟨0, 0, 1⟩, 1 / 0), (⟨1000, 0, 1⟩, 0 / 0)] := by decide +kernel
    have hinfinite : (⟨0, 0, 1⟩, 1 / 0)
        ∈ (overflowing.run overflowing.start).table.entries :=
      hlearned ▸ List.mem_cons_self
    have hanswer : overflowing.solution? (overflowing.run overflowing.start)
        = some ⟨⟨1000, 0, 1⟩, ⟨100, 0⟩, 0 / 0, 1 / 0⟩ := by decide +kernel
    exact ⟨_, Lesson.start?_eq_ok_iff.mpr ⟨hvalid, rfl⟩, _,
      hinfinite, by decide +kernel, _, hanswer,
      by decide +kernel⟩

end Table

end LatticeLP

import LatticeLP.Proofs.Learner.Table

/-!
# The highest value of a table

A table is asked for its best entry and for the best of several candidates. The two
searches differ. One starts from nothing and lets an entry go only for one that is not
at most as high; the other starts from below everything and takes up a value only if it
is strictly higher, so that values at the bottom of the order are passed over until
there is another one. Among numbers both end at the first of the highest values
(`best?_eq_some_iff`, `firstHighest_argmax`): negative values, infinities and values
that tie make no difference. And so the two searches agree: the best entry has the best
of all keys (`getElem?_argmax_keys`).
-/

namespace LatticeLP

namespace Table

variable {K : Type} [Scalar K] {t : Table K} {e : Key × K} {es : List (Key × K)}
  {values : List K} {y : K} {i : Nat}

/-! ## The best entry -/

theorem getElem?_entries :
    t.entries[i]? = some e ↔ t.keys[i]? = some e.1 ∧ t.get e.1 = e.2 := by
  obtain ⟨k, v⟩ := e
  rw [entries_eq_map, List.getElem?_map, Option.map_eq_some_iff]
  simp only [Prod.mk.injEq]
  constructor
  · rintro ⟨_, hk, rfl, rfl⟩
    exact ⟨hk, rfl⟩
  · rintro ⟨hk, hv⟩
    exact ⟨k, hk, rfl, hv⟩

/-- The values of the entries are those that the keys read. -/
theorem firstHighest_entries_iff :
    FirstHighest (some ∘ Prod.snd) t.entries i y ↔
      FirstHighest (some ∘ t.get) t.keys i y := by
  rw [entries_eq_map, FirstHighest.map_iff]
  rfl

/-- **Keeping the better of two entries** all along a list ends with the first of the
highest values. -/
theorem foldl_better_eq_some_iff (hK : Comparable K) (hself : ∀ e ∈ es, e.2 ≤ e.2) :
    es.foldl better none = some e ↔
      ∃ i, es[i]? = some e ∧ FirstHighest (some ∘ Prod.snd) es i e.2 := by
  have hnumbers : ∀ e ∈ es, ∀ x, (some ∘ Prod.snd) e = some x → x ≤ x := by
    rintro e he _ ⟨⟩
    exact hself e he
  -- an entry that is kept brings its value along
  have hkept : es.foldl (keepHighest (some ∘ Prod.snd)) none
      = (es.foldl better none).map fun e => (e, e.2) := by
    have hnone : (none : Option ((Key × K) × K)) = Option.map (fun e => (e, e.2)) none :=
      rfl
    rw [hnone]
    refine List.foldl_hom _ fun best e => ?_
    cases best with
    | none => simp [better, keepHighest]
    | some leader => by_cases h : e.2 ≤ leader.2 <;> simp [better, keepHighest, h]
  rw [← foldl_keepHighest_eq_some_iff hK hnumbers, hkept, Option.map_eq_some_iff]
  constructor
  · intro h
    exact ⟨e, h, rfl⟩
  · rintro ⟨_, h, ⟨⟩⟩
    exact h

/-- **The best entry is the first of those with the highest value.** -/
theorem best?_eq_some_iff (hK : Comparable K) (hself : ∀ e ∈ t.entries, e.2 ≤ e.2) :
    t.best? = some e ↔
      ∃ i, t.entries[i]? = some e ∧ FirstHighest (some ∘ Prod.snd) t.entries i e.2 :=
  foldl_better_eq_some_iff hK hself

/-! ## The best candidate -/

/-- Where the search among values has arrived: nowhere while they are at the bottom, and
then at the first of the highest. -/
def Arrived (values : List K) : Option (Nat × K) → Prop
  | none => ∀ x ∈ values, Scalar.aboveBottom x = false
  | some (i, x) => FirstHighest some values i x

/-- **One more value** takes the search further if it is higher than all before it. -/
theorem Arrived.betterIndex (hK : Ordered K) {best : Option (Nat × K)}
    (h : Arrived values best) (hself : ∀ x ∈ values, x ≤ x) (hy : y ≤ y) :
    Arrived (values ++ [y]) (Table.betterIndex best (y, values.length)) := by
  cases best with
  | none =>
    simp only [Table.betterIndex]
    split
    · next habove =>
      refine FirstHighest.of_above hy rfl fun j z hz => ?_
      obtain ⟨_, hmem, ⟨⟩⟩ := exists_mem_of_readAt? hz
      exact ⟨hK.le_of_bottom (hself _ hmem) hy (h _ hmem),
        hK.not_le_of_bottom (h _ hmem) habove⟩
    · next hbottom =>
      exact List.forall_mem_append.mpr
        ⟨h, List.forall_mem_singleton.mpr (by simpa using hbottom)⟩
  | some best =>
    obtain ⟨i, x⟩ := best
    have hfirst : FirstHighest some values i x := h
    obtain ⟨_, hmem, ⟨⟩⟩ := exists_mem_of_readAt? hfirst.readAt?_eq
    have hlt_iff := hK.lt_iff_not_le (hself _ hmem) hy
    simp only [Table.betterIndex]
    split
    · next hlt => exact hfirst.replace hK.toComparable (hself _ hmem) hy rfl
                    (hlt_iff.mp hlt)
    · next hnot =>
      refine hfirst.append ?_
      rintro _ ⟨⟩
      exact not_not.mp fun hle => hnot (hlt_iff.mpr hle)

theorem arrived_foldl (hK : Ordered K) (hself : ∀ x ∈ values, x ≤ x) :
    Arrived values (values.zipIdx.foldl betterIndex none) := by
  induction values using List.reverseRecOn with
  | nil => exact fun _ hx => nomatch hx
  | append_singleton values y ih =>
    rw [List.forall_mem_append, List.forall_mem_singleton] at hself
    rw [List.zipIdx_append, List.foldl_append, List.zipIdx_singleton, Nat.zero_add]
    exact (ih hself.1).betterIndex hK hself.1 hself.2

/-- **The best of several candidates is the first of those that read the highest
value.** -/
theorem firstHighest_argmax (hK : Ordered K) (hself : ∀ k, t.get k ≤ t.get k)
    {candidates : List Key} (hne : candidates ≠ []) :
    ∃ x, FirstHighest (some ∘ t.get) candidates (t.argmax candidates) x := by
  have hnumbers : ∀ x ∈ candidates.map t.get, x ≤ x := by
    intro x hx
    obtain ⟨k, _, rfl⟩ := List.mem_map.mp hx
    exact hself k
  have harrived := arrived_foldl hK hnumbers
  unfold argmax
  cases hfold : (candidates.map t.get).zipIdx.foldl betterIndex none with
  | some best =>
    rw [hfold] at harrived
    exact ⟨best.2, FirstHighest.map_iff.mp harrived⟩
  | none =>
    -- all candidates read the bottom, and the first of them is as good as any
    rw [hfold] at harrived
    obtain ⟨k, candidates, rfl⟩ := List.exists_cons_of_ne_nil hne
    refine ⟨t.get k, rfl, fun j y hy => ?_, fun j hj => absurd hj (Nat.not_lt_zero j)⟩
    obtain ⟨l, hl, ⟨⟩⟩ := exists_mem_of_readAt? hy
    exact hK.le_of_bottom (hself l) (hself k) (harrived _ (List.mem_map_of_mem hl))

/-! ## Both searches -/

/-- If the entries of a table are numbers, so is all that it reads. -/
theorem get_le_get (hK : Ordered K) (hself : ∀ e ∈ t.entries, e.2 ≤ e.2) (k : Key) :
    t.get k ≤ t.get k := by
  cases hcontains : t.contains k with
  | true => exact hself (k, t.get k) (mem_entries.mpr ⟨hcontains, rfl⟩)
  | false =>
    rw [get_of_contains_eq_false hcontains]
    exact hK.zero_le_zero

/-- **The best entry has the best of all keys.** -/
theorem getElem?_argmax_keys (hK : Ordered K) (hself : ∀ e ∈ t.entries, e.2 ≤ e.2)
    (h : t.best? = some e) : t.entries[t.argmax t.keys]? = some e := by
  obtain ⟨i, hi, hfirst⟩ := (best?_eq_some_iff hK.toComparable hself).mp h
  have hne : t.keys ≠ [] :=
    List.ne_nil_of_mem (List.mem_of_getElem? (getElem?_entries.mp hi).1)
  obtain ⟨x, hargmax⟩ := firstHighest_argmax hK (get_le_get hK hself) hne
  rw [hargmax.index_eq (firstHighest_entries_iff.mp hfirst), hi]

end Table

end LatticeLP

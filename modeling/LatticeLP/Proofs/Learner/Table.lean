import Mathlib.Data.List.Nodup
import LatticeLP.Learner.Learned
import LatticeLP.Proofs.Scalar.FirstHighest

/-!
# Entries of a table

A table is seen through its keys and the values they read; its entries pair the two
(`mem_entries`). Setting a value makes the table larger by one if the key is new and not
at all otherwise (`size_set`). The best entry is one of the entries, and there is one
unless the table is empty (`mem_entries_of_best?`, `best?_eq_none_iff`) – whatever the
order of the scalars is like, since the choice falls on some entry either way.
-/

namespace LatticeLP

namespace Table

variable {K : Type} {t : Table K}

theorem mem_keys {k : Key} : k ∈ t.keys ↔ t.contains k = true := by
  rw [contains_eq_isSome, Option.isSome_iff_exists, List.mem_iff_getElem?]
  exact exists_congr fun _ => index_eq_some_iff.symm

/-- **No key has two entries**: each is where the index has it. -/
theorem nodup_keys (t : Table K) : t.keys.Nodup := by
  refine List.nodup_iff_getElem?_ne_getElem?.mpr fun i j hij hj heq => ?_
  have hkey : t.keys[j]? = some t.keys[j] := List.getElem?_eq_getElem hj
  have hindex := index_eq_some_iff.mpr hkey
  rw [index_eq_some_iff.mpr (heq.trans hkey)] at hindex
  exact absurd (Option.some.inj hindex) (Nat.ne_of_lt hij)

@[simp] theorem contains_empty (k : Key) : (∅ : Table K).contains k = false := by
  rw [← Bool.not_eq_true, ← mem_keys, keys_empty]
  exact List.not_mem_nil

theorem length_entries (t : Table K) : t.entries.length = t.size :=
  Array.length_toList

theorem length_keys (t : Table K) : t.keys.length = t.size := by
  rw [keys, List.length_map, length_entries]

/-- A new key makes the table larger by one, a known one not at all. -/
theorem size_set (t : Table K) (k : Key) (v : K) :
    (t.set k v).size = if t.contains k then t.size else t.size + 1 := by
  rw [← length_keys, keys_set]
  split
  · exact length_keys t
  · rw [List.length_append, length_keys, List.length_singleton]

theorem size_set_le (t : Table K) (k : Key) (v : K) : (t.set k v).size ≤ t.size + 1 := by
  rw [size_set]
  split
  · exact Nat.le_succ _
  · exact Nat.le_refl _

/-- A table that was ever set is not empty. -/
theorem size_set_pos (t : Table K) (k : Key) (v : K) : 0 < (t.set k v).size := by
  have hmem : k ∈ (t.set k v).keys := mem_keys.mpr (by simp [contains_set])
  rw [← length_keys]
  exact List.length_pos_of_mem hmem

variable [Scalar K]

/-- A key without an entry reads zero. -/
theorem get_of_contains_eq_false {k : Key} (h : t.contains k = false) : t.get k = 0 := by
  rw [contains_eq_isSome, Option.isSome_eq_false_iff, Option.isNone_iff_eq_none] at h
  exact get_of_new h

/-- **The entries pair the keys with the values they read.** -/
theorem entries_eq_map (t : Table K) : t.entries = t.keys.map fun k => (k, t.get k) := by
  refine List.ext_getElem? fun i => ?_
  rw [List.getElem?_map]
  cases hkey : t.keys[i]? with
  | some k => rw [getElem?_entries_of_index (index_eq_some_iff.mpr hkey), Option.map_some]
  | none =>
    rw [keys, List.getElem?_map, Option.map_eq_none_iff] at hkey
    rw [hkey, Option.map_none]

theorem mem_entries {e : Key × K} :
    e ∈ t.entries ↔ t.contains e.1 = true ∧ e.2 = t.get e.1 := by
  obtain ⟨k, v⟩ := e
  rw [entries_eq_map, List.mem_map]
  constructor
  · rintro ⟨k', hk', h⟩
    cases h
    exact ⟨mem_keys.mp hk', rfl⟩
  · rintro ⟨hk, hv⟩
    exact ⟨k, mem_keys.mpr hk, congrArg (Prod.mk k) hv.symm⟩

/-- The choice between the best entry so far and the next one keeps the highest value. -/
theorem best?_eq_foldl_keepHighest (t : Table K) :
    t.best? = t.keys.foldl (keepHighest (some ∘ t.get)) none := by
  have hbetter : (fun best k => better best (k, t.get k))
      = keepHighest (some ∘ t.get) := by
    funext best k
    cases best <;> simp [better, keepHighest]
  rw [best?, entries_eq_map, List.foldl_map, hbetter]

/-- **The best entry is an entry.** -/
theorem mem_entries_of_best? {e : Key × K} (h : t.best? = some e) : e ∈ t.entries := by
  rw [best?_eq_foldl_keepHighest] at h
  obtain ⟨hmem, hvalue⟩ := mem_of_foldl_keepHighest h
  exact mem_entries.mpr ⟨mem_keys.mp hmem, (Option.some.inj hvalue).symm⟩

/-- **There is a best entry unless the table is empty.** -/
theorem best?_eq_none_iff : t.best? = none ↔ t.size = 0 := by
  rw [best?_eq_foldl_keepHighest, foldl_keepHighest_eq_none_iff, ← length_keys,
    List.length_eq_zero_iff, List.eq_nil_iff_forall_not_mem]
  exact forall₂_congr fun k _ => iff_of_false (Option.some_ne_none _) id

end Table

/-! ## Answers -/

namespace Learned

variable {K : Type} [Scalar K] {program : Program K} {t : Table K} {a : Learned K}

/-- There is an answer unless the table is empty. -/
theorem ofTable?_eq_none_iff : ofTable? program t = none ↔ t.size = 0 := by
  rw [ofTable?, Option.map_eq_none_iff, Table.best?_eq_none_iff]

/-- **An answer reads an entry**: its key and estimate are in the table, its point is
that of the key and its objective is taken there. -/
theorem ofTable?_eq_some (h : ofTable? program t = some a) :
    (a.key, a.estimate) ∈ t.entries ∧ a.point = a.key.point ∧
      a.objective = program.value a.point := by
  obtain ⟨⟨k, v⟩, hbest, rfl⟩ := Option.map_eq_some_iff.mp h
  exact ⟨Table.mem_entries_of_best? hbest, rfl, rfl⟩

end Learned

end LatticeLP

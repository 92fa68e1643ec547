import Std.Data.TreeMap.Lemmas
import LatticeLP.Lattice.Key

/-!
# Value tables

A **table** estimates the value of keys. It is a finite map that also remembers in which
order its keys arrived: a key that was never set reads as zero, setting a key again
replaces its value and keeps its place, and nothing is ever removed. The order matters,
because among equally valued entries the one that arrived first is preferred.

The entries stand one behind the other in **slots**, in the order of their arrival, and
an **index** holds the position of each key's slot. A known key is set by overwriting
its slot, a new one by a new slot at the end. That the index leads to the right slots is
part of the type (`Table.Indexed`), so that no look-up can miss.
-/

namespace LatticeLP

namespace Table

variable {K : Type} {index : Std.TreeMap Key Nat Key.order} {slots : Array (Key × K)}
  {i : Nat} {k : Key}

/-- **The index has each key at the position of its slot**, and no other keys. -/
def Indexed (index : Std.TreeMap Key Nat Key.order) (slots : Array (Key × K)) : Prop :=
  ∀ (k : Key) (i : Nat), index[k]? = some i ↔ slots[i]?.map Prod.fst = some k

namespace Indexed

theorem empty : Indexed ∅ (#[] : Array (Key × K)) := fun k i => by simp

/-- What the index holds is the position of a slot. -/
theorem lt_size (h : Indexed index slots) (hi : index[k]? = some i) : i < slots.size := by
  obtain ⟨e, he, -⟩ := Option.map_eq_some_iff.mp ((h k i).mp hi)
  exact (Array.getElem?_eq_some_iff.mp he).choose

/-- A slot may be given another value. -/
theorem overwrite (h : Indexed index slots) (hi : i < slots.size) (v : K) :
    Indexed index (slots.set i (slots[i].1, v)) := fun l j => by
  rw [h l j, Array.getElem?_set]
  split
  · next hij => rw [← hij, Array.getElem?_eq_getElem hi, Option.map_some, Option.map_some]
  · rfl

/-- A new key is given the next position. -/
theorem push (h : Indexed index slots) (hk : index[k]? = none) (v : K) :
    Indexed (index.insert k slots.size) (slots.push (k, v)) := fun l j => by
  rw [Std.TreeMap.getElem?_insert, Array.getElem?_push]
  simp only [Std.LawfulEqCmp.compare_eq_iff_eq]
  have hold := h l j
  by_cases hl : k = l <;> by_cases hj : j = slots.size
  · simp [hl, hj]
  · -- no earlier slot has the new key
    rw [← hl, hk] at hold
    simpa [hl, hj, eq_comm] using hold
  · -- the new slot has no earlier key
    rw [hj, Array.getElem?_eq_none (Nat.le_refl _)] at hold
    simpa [hl, hj] using hold
  · simpa [hl, hj] using hold

end Indexed

end Table

/-- Estimates by key, with the order in which the keys arrived. -/
structure Table (K : Type) where
  /-- The position of each key's slot. -/
  index : Std.TreeMap Key Nat Key.order
  /-- The entries in the order of their arrival. -/
  slots : Array (Key × K)
  /-- The index leads to the slots. -/
  indexed : Table.Indexed index slots

namespace Table

variable {K : Type}

/-- The table without entries. -/
def empty : Table K where
  index := ∅
  slots := #[]
  indexed := Indexed.empty

instance : EmptyCollection (Table K) := ⟨empty⟩

instance : Inhabited (Table K) := ⟨empty⟩

/-- The table has an entry for a key. -/
@[inline] def contains (t : Table K) (k : Key) : Bool :=
  t.index.contains k

/-- **Set the value of a key**: its slot is overwritten, or there is a new one at the
end. -/
def set (t : Table K) (k : Key) (v : K) : Table K :=
  match h : t.index[k]? with
  | some i =>
    have hi : i < t.slots.size := t.indexed.lt_size h
    { index := t.index
      slots := t.slots.set i (t.slots[i].1, v)
      indexed := t.indexed.overwrite hi v }
  | none =>
    { index := t.index.insert k t.slots.size
      slots := t.slots.push (k, v)
      indexed := t.indexed.push h v }

/-- The number of entries. -/
def size (t : Table K) : Nat :=
  t.slots.size

/-- The entries in the order of their arrival. -/
def entries (t : Table K) : List (Key × K) :=
  t.slots.toList

/-- The keys in the order of their arrival. -/
def keys (t : Table K) : List Key :=
  t.entries.map Prod.fst

@[simp] theorem size_empty : (∅ : Table K).size = 0 := rfl

@[simp] theorem keys_empty : (∅ : Table K).keys = [] := rfl

variable {t : Table K} {k : Key} {i : Nat}

/-- **The index has the positions of the keys.** -/
theorem index_eq_some_iff : t.index[k]? = some i ↔ t.keys[i]? = some k := by
  rw [t.indexed k i, keys, entries, List.getElem?_map, Array.getElem?_toList]

theorem contains_eq_isSome (t : Table K) (k : Key) : t.contains k = t.index[k]?.isSome :=
  Std.TreeMap.contains_eq_isSome_getElem?

/-- A known key keeps its slot, and the value there is replaced. -/
theorem set_of_known (h : t.index[k]? = some i) (v : K) :
    (t.set k v).index = t.index ∧ (t.set k v).entries = t.entries.set i (k, v) := by
  have hi := t.indexed.lt_size h
  have hkey : t.slots[i].1 = k := by
    have hslot := (t.indexed k i).mp h
    rwa [Array.getElem?_eq_getElem hi, Option.map_some, Option.some_inj] at hslot
  unfold set
  split
  · next j hj =>
    obtain rfl : i = j := Option.some.inj (h.symm.trans hj)
    exact ⟨rfl, by rw [entries, Array.toList_set, hkey, entries]⟩
  · next hnone => simp [hnone] at h

/-- A new key is given the next slot. -/
theorem set_of_new (h : t.index[k]? = none) (v : K) :
    (t.set k v).index = t.index.insert k t.size ∧
      (t.set k v).entries = t.entries ++ [(k, v)] := by
  unfold set
  split
  · next hsome => simp [hsome] at h
  · exact ⟨rfl, Array.toList_push⟩

/-- **A setting keeps every index at the position of its key**: those of the keys before
it stay, and a new key has the position of the new entry. -/
theorem index_set (t : Table K) (k l : Key) (v : K) :
    (t.set k v).index[l]? =
      if k = l ∧ t.index[l]? = none then some t.size else t.index[l]? := by
  cases h : t.index[k]? with
  | some i =>
    rw [(set_of_known h v).1, if_neg]
    rintro ⟨rfl, hnone⟩
    simp [h] at hnone
  | none =>
    rw [(set_of_new h v).1, Std.TreeMap.getElem?_insert]
    simp only [Std.LawfulEqCmp.compare_eq_iff_eq]
    by_cases hl : k = l
    · rw [if_pos hl, if_pos ⟨hl, hl ▸ h⟩]
    · rw [if_neg hl, if_neg fun hboth => hl hboth.1]

/-- The keys after a value is set: a new key comes last. -/
theorem keys_set (t : Table K) (k : Key) (v : K) :
    (t.set k v).keys = if t.contains k then t.keys else t.keys ++ [k] := by
  rw [contains_eq_isSome]
  cases h : t.index[k]? with
  | some i =>
    obtain ⟨hi, hkey⟩ := List.getElem?_eq_some_iff.mp (index_eq_some_iff.mp h)
    rw [keys, (set_of_known h v).2, List.map_set, ← keys, ← hkey]
    exact List.set_getElem_self hi
  | none => rw [keys, (set_of_new h v).2, List.map_append, ← keys]; rfl

/-- The table holds what was set and what it held before. -/
theorem contains_set (t : Table K) (k l : Key) (v : K) :
    (t.set k v).contains l = (k == l || t.contains l) := by
  rw [contains_eq_isSome, contains_eq_isSome, index_set]
  by_cases hl : k = l <;> cases h : t.index[l]? <;> simp [hl]

/-- What was set is an entry. -/
theorem mem_entries_set (t : Table K) (k : Key) (v : K) :
    (k, v) ∈ (t.set k v).entries := by
  cases h : t.index[k]? with
  | some i =>
    rw [(set_of_known h v).2]
    exact List.mem_set (t.indexed.lt_size h) _
  | none =>
    rw [(set_of_new h v).2]
    exact List.mem_append_right _ List.mem_cons_self

/-- The entries of other keys stay. -/
theorem getElem?_entries_set {l : Key} {j : Nat} (hl : k ≠ l) (h : t.index[l]? = some j)
    (v : K) :
    (t.set k v).entries[j]? = t.entries[j]? := by
  cases hk : t.index[k]? with
  | some i =>
    rw [(set_of_known hk v).2]
    refine List.getElem?_set_ne ?_
    rintro rfl
    exact hl
      (Option.some.inj ((index_eq_some_iff.mp hk).symm.trans (index_eq_some_iff.mp h)))
  | none =>
    rw [(set_of_new hk v).2]
    exact List.getElem?_append_left (t.indexed.lt_size h)

variable [Scalar K]

/-- **The value of a key**, zero if it was never set. -/
@[specialize] def get (t : Table K) (k : Key) : K :=
  match h : t.index[k]? with
  | some i =>
    have hi : i < t.slots.size := t.indexed.lt_size h
    t.slots[i].2
  | none => 0

/-- The choice between the best entry so far and the next one, which must be better to be
chosen. -/
@[specialize] def better : Option (Key × K) → Key × K → Option (Key × K)
  | some best, entry => if entry.2 ≤ best.2 then some best else some entry
  | none, entry => some entry

/-- **The entry of highest value**, the first to arrive among equals. -/
@[specialize] def best? (t : Table K) : Option (Key × K) :=
  t.entries.foldl better none

/-- The choice between the best position so far and the next one. Until a value above
the bottom of the order has been seen there is no best position. -/
@[specialize] def betterIndex (best : Option (Nat × K)) (candidate : K × Nat) :
    Option (Nat × K) :=
  match best with
  | some (_, greatest) =>
    if greatest < candidate.1 then some (candidate.2, candidate.1) else best
  | none => if Scalar.aboveBottom candidate.1 then some (candidate.2, candidate.1)
    else none

/-- **The position of the highest valued key** in a list, the first among equals.
Without keys it is zero. -/
@[specialize] def argmax (t : Table K) (candidates : List Key) : Nat :=
  match (candidates.map t.get).zipIdx.foldl betterIndex none with
  | some (index, _) => index
  | none => 0

/-- The value of a key is that of its entry. -/
theorem get_of_entry {v : K} (h : t.entries[i]? = some (k, v)) : t.get k = v := by
  have hindex : t.index[k]? = some i := by
    rw [index_eq_some_iff, keys, List.getElem?_map, h, Option.map_some]
  unfold get
  split
  · next j hj =>
    obtain rfl : i = j := Option.some.inj (hindex.symm.trans hj)
    rw [entries, Array.getElem?_toList, Array.getElem?_eq_some_iff] at h
    obtain ⟨_, hslot⟩ := h
    exact congrArg Prod.snd hslot
  · next hnone => simp [hnone] at hindex

/-- A new key reads zero. -/
theorem get_of_new (h : t.index[k]? = none) : t.get k = 0 := by
  unfold get
  split
  · next hsome => simp [hsome] at h
  · rfl

@[simp] theorem get_empty (k : Key) : (∅ : Table K).get k = 0 :=
  get_of_new Std.TreeMap.getElem?_emptyc

/-- The entry of a known key. -/
theorem getElem?_entries_of_index (h : t.index[k]? = some i) :
    t.entries[i]? = some (k, t.get k) := by
  have hkey := index_eq_some_iff.mp h
  rw [keys, List.getElem?_map, Option.map_eq_some_iff] at hkey
  obtain ⟨⟨_, v⟩, hentry, rfl⟩ := hkey
  rw [hentry, get_of_entry hentry]

/-- The key that was set reads as the value it was set to, and every other key as
before. -/
theorem get_set (t : Table K) (k l : Key) (v : K) :
    (t.set k v).get l = if k = l then v else t.get l := by
  split
  · next hl =>
    obtain ⟨i, hi⟩ := List.mem_iff_getElem?.mp (mem_entries_set t k v)
    exact hl ▸ get_of_entry hi
  · next hl =>
    cases h : t.index[l]? with
    | some j =>
      have hentry := getElem?_entries_of_index h
      rw [← getElem?_entries_set hl h v] at hentry
      exact get_of_entry hentry
    | none =>
      have hnew : (t.set k v).index[l]? = none := by
        rw [index_set, if_neg fun hboth => hl hboth.1, h]
      rw [get_of_new hnew, get_of_new h]

end Table

end LatticeLP

import Mathlib.Data.List.Induction
import LatticeLP.Proofs.Scalar.Comparable

/-!
# The first of the highest values

Some items have a value. Going through a list of them once and keeping the item of the
highest value so far (`keepHighest`) ends with the **first of the highest**: no value is
higher than its own, and none before it is as high (`foldl_keepHighest_eq_some_iff`). At
most one position holds it (`FirstHighest.index_eq`), so this determines the choice.

That nothing is kept says no more than that nothing has a value, whatever the values are
like (`foldl_keepHighest_eq_none_iff`). That the first of the highest is kept needs an
order: a value that compares with nothing, not even with itself, would stand in the way
of every later one once it was kept. So the scalars have to be `Comparable`, and the
values numbers (`Double.le_self_iff`).
-/

namespace LatticeLP

variable {α β K : Type} {value? : α → Option K} {items : List α} {item : α}
  {i j : Nat} {x y : K}

/-- The value of the item at a position, if there is one. -/
def readAt? (value? : α → Option K) (items : List α) (i : Nat) : Option K :=
  items[i]?.bind value?

theorem readAt?_map (value? : β → Option K) (f : α → β) (items : List α) (i : Nat) :
    readAt? value? (items.map f) i = readAt? (value? ∘ f) items i := by
  rw [readAt?, readAt?, List.getElem?_map, Option.bind_map]

theorem lt_length_of_readAt? (h : readAt? value? items i = some x) :
    i < items.length := by
  obtain ⟨item, hitem, _⟩ := Option.bind_eq_some_iff.mp h
  exact (List.getElem?_eq_some_iff.mp hitem).1

theorem exists_mem_of_readAt? (h : readAt? value? items i = some x) :
    ∃ item ∈ items, value? item = some x := by
  obtain ⟨item, hitem, hvalue⟩ := Option.bind_eq_some_iff.mp h
  exact ⟨item, List.mem_of_getElem? hitem, hvalue⟩

theorem readAt?_append_of_lt (h : i < items.length) (item : α) :
    readAt? value? (items ++ [item]) i = readAt? value? items i := by
  rw [readAt?, readAt?, List.getElem?_append_left h]

theorem readAt?_append_length (items : List α) (item : α) :
    readAt? value? (items ++ [item]) items.length = value? item := by
  rw [readAt?, List.getElem?_concat_length, Option.bind_some]

/-- A value in a longer list is one of the list, or that of the item behind it. -/
theorem readAt?_append (h : readAt? value? (items ++ [item]) i = some x) :
    (i < items.length ∧ readAt? value? items i = some x) ∨
      (i = items.length ∧ value? item = some x) := by
  have hi := lt_length_of_readAt? h
  rw [List.length_append, List.length_singleton] at hi
  rcases Nat.lt_succ_iff_lt_or_eq.mp hi with hlt | rfl
  · exact .inl ⟨hlt, readAt?_append_of_lt hlt item ▸ h⟩
  · exact .inr ⟨rfl, (readAt?_append_length items item).symm.trans h⟩

variable [Scalar K]

/-- **A position holds the first of the highest values.** -/
structure FirstHighest (value? : α →
    Option K) (items : List α) (i : Nat) (x : K) : Prop where
  /-- The item there has the value. -/
  readAt?_eq : readAt? value? items i = some x
  /-- No value is higher. -/
  le : ∀ j y, readAt? value? items j = some y → y ≤ x
  /-- Those before it are lower. -/
  not_le : ∀ j < i, ∀ y, readAt? value? items j = some y → ¬ x ≤ y

namespace FirstHighest

/-- At most one position holds the first of the highest values. -/
theorem index_eq (h : FirstHighest value? items i x)
    (h' : FirstHighest value? items j y) : i = j := by
  rcases Nat.lt_trichotomy i j with hlt | heq | hlt
  · exact absurd (h.le j y h'.readAt?_eq) (h'.not_le i hlt x h.readAt?_eq)
  · exact heq
  · exact absurd (h'.le i x h.readAt?_eq) (h.not_le j hlt y h'.readAt?_eq)

/-- The values of other items are those of the items they come from. -/
theorem map_iff {value? : β → Option K} {f : α → β} :
    FirstHighest value? (items.map f) i x ↔ FirstHighest (value? ∘ f) items i x := by
  constructor
  all_goals
    rintro ⟨hread, hle, hnot⟩
    constructor
    · simpa only [readAt?_map] using hread
    · simpa only [readAt?_map] using hle
    · simpa only [readAt?_map] using hnot

/-- It stays where it is if an item without a value comes behind, or one whose value is
no higher. -/
theorem append (h : FirstHighest value? items i x)
    (hitem : ∀ y, value? item = some y → y ≤ x) :
    FirstHighest value? (items ++ [item]) i x where
  readAt?_eq :=
    (readAt?_append_of_lt (lt_length_of_readAt? h.readAt?_eq) item).trans h.readAt?_eq
  le j y hy := by
    rcases readAt?_append hy with ⟨_, hy⟩ | ⟨_, hy⟩
    · exact h.le j y hy
    · exact hitem y hy
  not_le j hj y hy := by
    rw [readAt?_append_of_lt (hj.trans (lt_length_of_readAt? h.readAt?_eq))] at hy
    exact h.not_le j hj y hy

/-- An item with a value above all others takes the place from behind. -/
theorem of_above (hself : y ≤ y) (hitem : value? item = some y)
    (habove : ∀ j z, readAt? value? items j = some z → z ≤ y ∧ ¬ y ≤ z) :
    FirstHighest value? (items ++ [item]) items.length y where
  readAt?_eq := (readAt?_append_length items item).trans hitem
  le j z hz := by
    rcases readAt?_append hz with ⟨_, hz⟩ | ⟨_, hz⟩
    · exact (habove j z hz).1
    · rw [hitem] at hz
      exact Option.some.inj hz ▸ hself
  not_le j hj z hz := by
    rw [readAt?_append_of_lt hj] at hz
    exact (habove j z hz).2

/-- **A number that is not at most as high takes its place.** -/
theorem replace (h : FirstHighest value? items i x) (hK : Comparable K) (hx : x ≤ x)
    (hy : y ≤ y) (hitem : value? item = some y) (hnot : ¬ y ≤ x) :
    FirstHighest value? (items ++ [item]) items.length y := by
  have hxy : x ≤ y := (hK.total x y hx hy).resolve_right hnot
  refine of_above hy hitem fun j z hz => ?_
  have hzx : z ≤ x := h.le j z hz
  exact ⟨hK.trans z x y hzx hxy, fun hyz => hnot (hK.trans y z x hyz hzx)⟩

end FirstHighest

/-! ## Keeping the highest -/

/-- The choice between the item of the highest value so far, kept together with it, and
the next item. -/
def keepHighest (value? : α → Option K) (best : Option (α × K)) (item : α) :
    Option (α × K) :=
  match value? item with
  | none => best
  | some y => if ∃ leader ∈ best, y ≤ leader.2 then best else some (item, y)

/-- Either the best so far is kept, since the next item has no higher value, or the next
item takes its place. -/
theorem keepHighest_cases (value? : α → Option K) (best : Option (α × K)) (item : α) :
    (keepHighest value? best item = best ∧
      ∀ y, value? item = some y → ∃ leader ∈ best, y ≤ leader.2) ∨
    ∃ y, value? item = some y ∧ keepHighest value? best item = some (item, y) ∧
      ∀ leader ∈ best, ¬ y ≤ leader.2 := by
  unfold keepHighest
  cases hvalue : value? item with
  | none => exact .inl ⟨rfl, fun _ h => nomatch h⟩
  | some y =>
    by_cases hleader : ∃ leader ∈ best, y ≤ leader.2
    · exact .inl ⟨if_pos hleader, fun z hz => Option.some.inj hz ▸ hleader⟩
    · exact .inr
        ⟨y, rfl, if_neg hleader, fun leader hmem hle => hleader ⟨leader, hmem, hle⟩⟩

/-- **Nothing is kept if and only if nothing has a value.** -/
theorem foldl_keepHighest_eq_none_iff :
    items.foldl (keepHighest value?) none = none ↔ ∀ item ∈ items,
      value? item = none := by
  induction items using List.reverseRecOn with
  | nil => simp
  | append_singleton items last ih =>
    rw [List.foldl_append, List.foldl_cons, List.foldl_nil, List.forall_mem_append,
      List.forall_mem_singleton, ← ih]
    rcases keepHighest_cases value? (items.foldl (keepHighest value?) none) last with
      ⟨hkept, hlast⟩ | ⟨y, hlast, htaken, _⟩
    · rw [hkept]
      refine ⟨fun hnone => ⟨hnone, ?_⟩, And.left⟩
      rw [Option.eq_none_iff_forall_ne_some]
      intro y hy
      obtain ⟨leader, hleader, _⟩ := hlast y hy
      rw [hnone] at hleader
      cases hleader
    · rw [htaken, hlast]
      simp

/-- What is kept is an item with its value. -/
theorem mem_of_foldl_keepHighest
    (h : items.foldl (keepHighest value?) none = some (item, x)) :
    item ∈ items ∧ value? item = some x := by
  induction items using List.reverseRecOn generalizing item x with
  | nil => cases h
  | append_singleton items last ih =>
    rw [List.foldl_append, List.foldl_cons, List.foldl_nil] at h
    rcases keepHighest_cases value? (items.foldl (keepHighest value?) none) last with
      ⟨hkept, _⟩ | ⟨y, hlast, htaken, _⟩
    · obtain ⟨hmem, hvalue⟩ := ih (hkept.symm.trans h)
      exact ⟨List.mem_append_left _ hmem, hvalue⟩
    · cases htaken.symm.trans h
      exact ⟨List.mem_concat_self, hlast⟩

/-- **What is kept is the first of the highest.** -/
theorem firstHighest_of_foldl_keepHighest (hK : Comparable K)
    (hself : ∀ item ∈ items, ∀ x, value? item = some x → x ≤ x)
    (h : items.foldl (keepHighest value?) none = some (item, x)) :
    ∃ i, items[i]? = some item ∧ FirstHighest value? items i x := by
  induction items using List.reverseRecOn generalizing item x with
  | nil => cases h
  | append_singleton items last ih =>
    rw [List.forall_mem_append, List.forall_mem_singleton] at hself
    obtain ⟨hself, hlast⟩ := hself
    rw [List.foldl_append, List.foldl_cons, List.foldl_nil] at h
    rcases keepHighest_cases value? (items.foldl (keepHighest value?) none) last with
      ⟨hkept, hle⟩ | ⟨y, hvalue, htaken, hnot⟩
    · have hbest := hkept.symm.trans h
      obtain ⟨i, hi, hfirst⟩ := ih hself hbest
      have hlt := lt_length_of_readAt? hfirst.readAt?_eq
      refine ⟨i, (List.getElem?_append_left hlt).trans hi, hfirst.append fun y hy => ?_⟩
      obtain ⟨leader, hleader, hle⟩ := hle y hy
      rw [hbest, Option.mem_some_iff] at hleader
      subst hleader
      exact hle
    · cases htaken.symm.trans h
      refine ⟨items.length, List.getElem?_concat_length, ?_⟩
      cases hbest : items.foldl (keepHighest value?) none with
      | none =>
        -- the first value of all stands behind items without one
        refine .of_above (hlast x hvalue) hvalue fun j z hz => ?_
        obtain ⟨other, hother, hz'⟩ := exists_mem_of_readAt? hz
        rw [foldl_keepHighest_eq_none_iff.mp hbest other hother] at hz'
        cases hz'
      | some leader =>
        obtain ⟨hmem, hleader⟩ := mem_of_foldl_keepHighest hbest
        obtain ⟨i, _, hfirst⟩ := ih hself hbest
        exact hfirst.replace hK (hself _ hmem _ hleader) (hlast x hvalue) hvalue
          (hnot leader hbest)

/-- **An item is kept if and only if it is the first of the highest.** -/
theorem foldl_keepHighest_eq_some_iff (hK : Comparable K)
    (hself : ∀ item ∈ items, ∀ x, value? item = some x → x ≤ x) :
    items.foldl (keepHighest value?) none = some (item, x) ↔
      ∃ i, items[i]? = some item ∧ FirstHighest value? items i x := by
  refine ⟨firstHighest_of_foldl_keepHighest hK hself, ?_⟩
  rintro ⟨i, hi, hfirst⟩
  have hvalue : value? item = some x := by
    simpa only [readAt?, hi, Option.bind_some] using hfirst.readAt?_eq
  cases hbest : items.foldl (keepHighest value?) none with
  | none =>
    rw [foldl_keepHighest_eq_none_iff.mp hbest item (List.mem_of_getElem? hi)] at hvalue
    cases hvalue
  | some leader =>
    obtain ⟨j, hj, hfirst'⟩ := firstHighest_of_foldl_keepHighest hK hself hbest
    rw [← hfirst.index_eq hfirst', hi, Option.some.injEq] at hj
    have hvalue' := (mem_of_foldl_keepHighest hbest).2
    rw [← hj, hvalue, Option.some.injEq] at hvalue'
    rw [hj, hvalue']

end LatticeLP

import LatticeLP.Proofs.Learner.TableChoice

/-!
# A table as a record of its settings

Whatever is done to a table, only settings leave a trace in it, so that a table which
was empty at first is given by the **log** of its settings (`after_eq_setAll`). The log
alone tells what an insertion-ordered map holds: an entry for each key that was set, in
the order in which the keys were set first, with the value that was set last
(`recorded`), and zero for a key that was never set (`latest`).

The table refines that map. A log and a table that agree in the keys and in what they
read still agree after one more setting (`Records.set`), and so they do after any number
of calls. The slots then hold what is recorded, and the index has the position of each
recorded key (`Stores`): a later setting overwrites a slot or adds one, and moves none.

If the values are numbers, the best entry of the table is the first of the highest that
are recorded, the best of several candidates is the first of those whose latest value is
the highest, and the two agree.
-/

namespace LatticeLP

namespace Table

/-- What a table can be asked to do. -/
inductive Call (K : Type) where
  | set (k : Key) (v : K)
  | get (k : Key)
  | contains (k : Key)
  | size
  | entries
  | best
  | argmax (candidates : List Key)

/-- What a table replies. -/
inductive Reply (K : Type) where
  | done
  | value (v : K)
  | holds (b : Bool)
  | count (n : Nat)
  | listing (es : List (Key × K))
  | choice (e : Option (Key × K))
  | position (i : Nat)

/-- The setting that a call makes, if it makes one. -/
def Call.setting? {K : Type} : Call K → Option (Key × K)
  | set k v => some (k, v)
  | _ => none

variable {K : Type} [Scalar K] {t : Table K} {log : List (Key × K)} {k l : Key} {v : K}

/-- **One call**: the reply, and the table behind it. -/
def call (t : Table K) : Call K → Reply K × Table K
  | .set k v => (.done, t.set k v)
  | .get k => (.value (t.get k), t)
  | .contains k => (.holds (t.contains k), t)
  | .size => (.count t.size, t)
  | .entries => (.listing t.entries, t)
  | .best => (.choice t.best?, t)
  | .argmax candidates => (.position (t.argmax candidates), t)

/-- The table behind several calls. -/
def after (t : Table K) (calls : List (Call K)) : Table K :=
  calls.foldl (fun t c => (t.call c).2) t

/-- The table behind several settings. -/
def setAll (t : Table K) (log : List (Key × K)) : Table K :=
  log.foldl (fun t e => t.set e.1 e.2) t

/-- **Only settings leave a trace.** -/
theorem after_eq_setAll (t : Table K) (calls : List (Call K)) :
    t.after calls = t.setAll (calls.filterMap Call.setting?) := by
  induction calls generalizing t with
  | nil => rfl
  | cons c calls ih => cases c <;> exact ih _

/-! ## What a log records -/

/-- The value that was set last for a key, zero if there is none. -/
def latest (log : List (Key × K)) (k : Key) : K :=
  (log.reverse.lookup k).getD 0

/-- **The entries that a log leaves**: each key once, in the order in which they were
set first, with the value that was set last. -/
def recorded (log : List (Key × K)) : List (Key × K) :=
  (log.map Prod.fst).eraseDups.map fun k => (k, latest log k)

theorem latest_append (log : List (Key × K)) (k l : Key) (v : K) :
    latest (log ++ [(k, v)]) l = if k = l then v else latest log l := by
  rw [latest, List.reverse_append, List.reverse_singleton, List.singleton_append,
    List.lookup_cons]
  by_cases h : k = l
  · rw [if_pos h, h, beq_self_eq_true]
    rfl
  · rw [if_neg h, beq_false_of_ne (Ne.symm h)]
    rfl

omit [Scalar K] in
/-- One more setting lists its key only if it was not set before. -/
theorem eraseDups_keys_append (log : List (Key × K)) (k : Key) (v : K) :
    ((log ++ [(k, v)]).map Prod.fst).eraseDups =
      if k ∈ log.map Prod.fst then (log.map Prod.fst).eraseDups
      else (log.map Prod.fst).eraseDups ++ [k] := by
  rw [List.map_append, List.map_singleton, List.eraseDups_append, List.cons_removeAll]
  by_cases h : k ∈ log.map Prod.fst
  · rw [if_pos h, if_neg (by simpa using h)]
    exact List.append_nil _
  · rw [if_neg h, if_pos (by simpa using h)]
    rfl

/-- **A table records a log.** -/
structure Records (log : List (Key × K)) (t : Table K) : Prop where
  /-- It holds the keys that were set, in the order of their first setting. -/
  keys_eq : t.keys = (log.map Prod.fst).eraseDups
  /-- It reads what was set last. -/
  get_eq : ∀ k, t.get k = latest log k

namespace Records

theorem contains_iff (h : Records log t) :
    t.contains k = true ↔ k ∈ log.map Prod.fst := by
  rw [← mem_keys, h.keys_eq, List.mem_eraseDups]

theorem entries_eq (h : Records log t) : t.entries = recorded log := by
  rw [entries_eq_map, h.keys_eq, recorded]
  exact List.map_congr_left fun k _ => congrArg (Prod.mk k) (h.get_eq k)

theorem empty : Records [] (∅ : Table K) where
  keys_eq := rfl
  get_eq := get_empty

/-- **A setting is recorded.** -/
theorem set (h : Records log t) (k : Key) (v : K) :
    Records (log ++ [(k, v)]) (t.set k v) where
  keys_eq := by
    rw [keys_set, eraseDups_keys_append, h.keys_eq]
    exact if_congr h.contains_iff rfl rfl
  get_eq l := by rw [get_set, latest_append, h.get_eq]

end Records

/-- **All settings are recorded.** -/
theorem records_setAll (log : List (Key × K)) :
    Records log ((∅ : Table K).setAll log) := by
  induction log using List.reverseRecOn with
  | nil => exact .empty
  | append_singleton log e ih =>
    rw [setAll, List.foldl_append]
    exact ih.set e.1 e.2

/-! ## How a table holds a log -/

/-- **How a table holds a log**: what is recorded stands in the slots, and the index
leads there. -/
structure Stores (log : List (Key × K)) (t : Table K) : Prop where
  /-- The slots hold what is recorded, in its order. -/
  slots : t.slots.toList = recorded log
  /-- The index has each recorded key at its position, and no other keys. -/
  index : ∀ (k : Key) (i : Nat), t.index[k]? = some i ↔
    (recorded log)[i]?.map Prod.fst = some k
  /-- Setting a recorded key overwrites the slot at its position. -/
  set_known : ∀ (k : Key) (v : K) (i : Nat), t.index[k]? = some i →
    (t.set k v).slots.toList = (recorded log).set i (k, v)
  /-- Setting a new key adds a slot at the end. -/
  set_new : ∀ (k : Key) (v : K), t.index[k]? = none →
    (t.set k v).slots.toList = recorded log ++ [(k, v)]
  /-- No setting moves a key that has a position. -/
  set_keeps : ∀ (k l : Key) (v : K) (i : Nat), t.index[l]? = some i →
    (t.set k v).index[l]? = some i

theorem Records.stores (h : Records log t) : Stores log t where
  slots := h.entries_eq
  index k i := by rw [index_eq_some_iff, keys, h.entries_eq, List.getElem?_map]
  set_known k v i hi := by rw [← h.entries_eq]; exact (set_of_known hi v).2
  set_new k v hk := by rw [← h.entries_eq]; exact (set_of_new hk v).2
  set_keeps k l v i hi := by rw [index_set, hi, if_neg fun hnew => Option.some_ne_none i hnew.2]

/-! ## What a table replies -/

/-- **What a table replies that records a log.** No reply changes the table. -/
structure Replies (log : List (Key × K)) (t : Table K) : Prop where
  /-- The entries are those that the log leaves. -/
  entries : t.call .entries = (.listing (recorded log), t)
  /-- No key is among them twice. -/
  nodup : ((recorded log).map Prod.fst).Nodup
  /-- A key reads as the value that was set last. -/
  get : ∀ k, t.call (.get k) = (.value (latest log k), t)
  /-- There is an entry for a key if it was ever set. -/
  contains : ∀ k, t.call (.contains k) = (.holds (decide (k ∈ log.map Prod.fst)), t)
  /-- The size is the number of entries. -/
  size : t.call .size = (.count (recorded log).length, t)

/-- **What a table chooses that records a log**, if what is recorded are numbers. -/
structure Chooses (log : List (Key × K)) (t : Table K) : Prop where
  /-- There is a best entry unless nothing is recorded. -/
  best_none : t.call .best = (.choice none, t) ↔ recorded log = []
  /-- The best entry is the first of the highest. -/
  best_some : ∀ e, t.call .best = (.choice (some e), t) ↔
    ∃ i, (recorded log)[i]? = some e ∧ FirstHighest (some ∘ Prod.snd) (recorded log) i e.2
  /-- The best candidate is the first of those with the highest of the latest values. -/
  argmax : ∀ candidates ≠ [], ∃ i x,
    t.call (.argmax candidates) = (.position i, t) ∧
      FirstHighest (some ∘ latest log) candidates i x
  /-- The best of all keys has the best entry. -/
  best_argmax : ∀ e, t.call .best = (.choice (some e), t) →
    ∃ i, t.call (.argmax ((recorded log).map Prod.fst)) = (.position i, t) ∧
      (recorded log)[i]? = some e

theorem Records.replies (h : Records log t) : Replies log t where
  entries := by rw [call, h.entries_eq]
  nodup := by
    rw [← h.entries_eq]
    exact nodup_keys t
  get k := by rw [call, h.get_eq]
  contains k := by
    rw [call, Bool.eq_iff_iff.mpr (h.contains_iff.trans decide_eq_true_iff.symm)]
  size := by rw [call, ← h.entries_eq, length_entries]

theorem Records.chooses (h : Records log t) (hK : Ordered K)
    (hself : ∀ e ∈ recorded log, e.2 ≤ e.2) :
    Chooses log t := by
  rw [← h.entries_eq] at hself
  have hchoice : ∀ e, t.call .best = (.choice e, t) ↔ t.best? = e := by simp [call]
  refine ⟨?_, fun e => ?_, fun candidates hne => ?_, fun e he => ?_⟩
  · rw [hchoice, best?_eq_none_iff, ← h.entries_eq, ← length_entries,
      List.length_eq_zero_iff]
  · rw [hchoice, best?_eq_some_iff hK.toComparable hself, h.entries_eq]
  · obtain ⟨x, hx⟩ := firstHighest_argmax hK (get_le_get hK hself) hne
    rw [funext h.get_eq] at hx
    exact ⟨_, x, rfl, hx⟩
  · refine ⟨_, rfl, ?_⟩
    rw [← h.entries_eq]
    exact getElem?_argmax_keys hK hself ((hchoice e).mp he)

/-- **A table is a record of its settings.** Behind any calls, a table that was empty at
first is the one that the settings among them lead to. Its slots hold each key that was
set once, in the order in which the keys were set first and with the value that was set
last; its index has these keys at their positions, and whatever is set next leaves them
there. It reads zero for all other keys. If the values are numbers, then its best entry
is the first of the highest, the best of several candidates is the first that reads the
highest value, and the best entry has the best of all keys. -/
theorem record_of_settings (calls : List (Call K)) :
    let log := calls.filterMap Call.setting?
    let t := (∅ : Table K).after calls
    t = (∅ : Table K).setAll log ∧ Stores log t ∧ Replies log t ∧
      (Ordered K → (∀ e ∈ recorded log, e.2 ≤ e.2) → Chooses log t) := by
  intro log t
  have hafter : t = (∅ : Table K).setAll log := after_eq_setAll ∅ calls
  have hrecords : Records log t := hafter ▸ records_setAll log
  exact ⟨hafter, hrecords.stores, hrecords.replies, hrecords.chooses⟩

/-- Four keys whose values are set and read by turns: one that is lowered, two that tie
in the end, the one that came first being raised last, and one at the bottom of the
order. -/
def byTurns : List (Call Float) :=
  [.set ⟨0, 0, 1⟩ 4, .get ⟨3, 0, 1⟩, .set ⟨3, 0, 1⟩ (-(1 / 0)), .best,
    .set ⟨6, 0, 1⟩ 2.5, .set ⟨0, 0, 1⟩ (-1), .argmax [⟨3, 0, 1⟩, ⟨9, 0, 1⟩],
    .set ⟨9, 0, 1⟩ (-(1 / 0)), .size, .set ⟨3, 0, 1⟩ 2.5]

/-- Of the two that tie, the one that came first is the best, though it was raised last;
it kept its position. -/
theorem record_of_settings_byTurns :
    let log := byTurns.filterMap Call.setting?
    let t := (∅ : Table Float).after byTurns
    Ordered Float ∧ (∀ e ∈ recorded log, e.2 ≤ e.2) ∧
      recorded log
        = [(⟨0, 0, 1⟩, -1), (⟨3, 0, 1⟩, 2.5), (⟨6, 0, 1⟩, 2.5), (⟨9, 0, 1⟩, -(1 / 0))] ∧
      t.index[(⟨3, 0, 1⟩ : Key)]? = some 1 ∧ Stores log t ∧
      t.call .best = (.choice (some (⟨3, 0, 1⟩, 2.5)), t) ∧ Chooses log t := by
  intro log t
  have hnumbers : ∀ e ∈ recorded log, e.2 ≤ e.2 := by decide +kernel
  have hbest : t.best? = some (⟨3, 0, 1⟩, 2.5) := by decide +kernel
  refine ⟨ordered_double, hnumbers, by decide +kernel, by decide +kernel,
    (record_of_settings byTurns).2.1, ?_,
    (record_of_settings byTurns).2.2.2 ordered_double hnumbers⟩
  rw [call, hbest]

end Table

end LatticeLP

import Mathlib.Data.List.Nodup
import LatticeLP.Proofs.Learner.Clock
import LatticeLP.Proofs.Learner.Selection

/-!
# Sweeps

A sweep is its runs: carried out for several seeds, a lesson ends in the states in which
each seed alone would have ended (`runs_alone`). The check of parameters does not look
at the seed, so a sweep that begins does not fail at one of its runs, and there is
nothing that one run could leave behind for the next. Seeds that follow each other are
distinct also where they pass the greatest word.

Which run is the best does depend on how the seeds are listed, though only as far as
several share the highest estimate: the choice falls on the one of them that is listed
first (`best?_runs`), which need not be the lowest (`bestSeed?_listed_downwards`). In a
list in ascending order it is.
-/

namespace LatticeLP

namespace Lesson

variable {K : Type} [Scalar K] {lesson : Lesson K}

/-- **A lesson succeeds for every seed or for none**, since the check of parameters does
not look at the seed. -/
theorem complete?_withSeed (valid : lesson.params.Valid) (seed : UInt64) :
    (lesson.withSeed seed).complete? = .ok (lesson.withSeed seed).complete := by
  have hstart : (lesson.withSeed seed).start? = .ok (lesson.withSeed seed).start :=
    start?_eq_ok_iff.mpr ⟨valid, rfl⟩
  rw [complete?, hstart]
  rfl

/-- A lesson that was carried out is complete. -/
theorem phase_complete (valid : lesson.params.Valid) :
    lesson.complete.learner.phase = .runComplete := by
  show (lesson.run (lesson.advances 0 lesson.start)).phase = _
  rw [run_advances valid, phase_runLength valid]

/-- The estimate that a seed leads to. -/
def estimateOf (lesson : Lesson K) (seed : UInt64) : Option K :=
  (lesson.withSeed seed).complete.estimate?

/-- **A seed excels among others**: its run has an estimate, and none of theirs is
higher. -/
def Excels (lesson : Lesson K) (seeds : List UInt64) (seed : UInt64) : Prop :=
  seed ∈ seeds ∧ ∃ x ∈ lesson.estimateOf seed, ∀ other ∈ seeds,
    ∀ y ∈ lesson.estimateOf other, y ≤ x

instance (lesson : Lesson K) (seeds : List UInt64) :
    DecidablePred (lesson.Excels seeds) :=
  fun _ => inferInstanceAs (Decidable (_ ∧ _))

/-- Excelling does not depend on the order in which the seeds are listed. -/
theorem excels_perm {seeds seeds' : List UInt64} (h : seeds'.Perm seeds) {seed : UInt64} :
    lesson.Excels seeds' seed ↔ lesson.Excels seeds seed := by
  simp only [Excels, h.mem_iff]

/-- A single step on the sample program. A run learns something unless the step leaves
the region, and then what it learns says along which axis the step was. -/
def glimpse : Lesson Float where
  program := .sample
  params := { Params.standard with step := 1.25, episodes := 1, steps := 1 }
  schedule := .constant

theorem estimates_glimpse :
    ∀ seed ∈ ([8, 5, 14, 7] : List UInt64), ∀ x ∈ glimpse.estimateOf seed, x ≤ x := by
  -- one seed after the other, or all words would be gone through
  simp only [List.forall_mem_cons]
  refine ⟨?_, ?_, ?_, ?_, List.forall_mem_nil _⟩ <;> decide +kernel

end Lesson

namespace Sweep

/-! ## Seeds that follow each other -/

theorem toNat_add_toUInt64 (first : UInt64) (i : Nat) :
    (first + i.toUInt64).toNat = (first.toNat + i) % 2 ^ 64 := by
  rw [UInt64.toNat_add]
  show (first.toNat + i % 2 ^ 64) % 2 ^ 64 = _
  rw [Nat.add_mod_mod]

theorem length_consecutiveSeeds (first : UInt64) (count : Nat) :
    (consecutiveSeeds first count).length = count := by
  rw [consecutiveSeeds, List.length_map, List.length_range]

/-- **Seeds that follow each other are distinct**, up to the number of words. -/
theorem nodup_consecutiveSeeds (first : UInt64) {count : Nat} (h : count ≤ 2 ^ 64) :
    (consecutiveSeeds first count).Nodup := by
  refine List.Nodup.map_on (fun i hi j hj heq => ?_) List.nodup_range
  have hnat : (first.toNat + i) % 2 ^ 64 = (first.toNat + j) % 2 ^ 64 := by
    rw [← toNat_add_toUInt64, ← toNat_add_toUInt64, heq]
  have := List.mem_range.mp hi
  have := List.mem_range.mp hj
  omega

/-- As long as they do not pass the greatest word, they ascend. -/
theorem pairwise_consecutiveSeeds {first : UInt64} {count : Nat}
    (h : first.toNat + count ≤ 2 ^ 64) :
    (consecutiveSeeds first count).Pairwise (· < ·) := by
  rw [consecutiveSeeds, List.pairwise_map]
  refine List.Pairwise.imp_of_mem (fun {i j} hi hj hij => ?_) List.pairwise_lt_range
  rw [UInt64.lt_iff_toNat_lt, toNat_add_toUInt64, toNat_add_toUInt64]
  have := List.mem_range.mp hi
  have := List.mem_range.mp hj
  omega

/-! ## Carrying out a sweep -/

variable {K : Type} [Scalar K] {lesson : Lesson K} {seeds seeds' : List UInt64}

/-- A sweep begins with valid parameters and one seed at least. -/
theorem ofSeeds?_eq_ok (valid : lesson.params.Valid) (hseeds : seeds ≠ []) :
    ofSeeds? lesson seeds = .ok ⟨lesson, seeds⟩ := by
  unfold ofSeeds?
  rw [show lesson.params.check = .ok () from valid]
  exact if_neg (by simpa using hseeds)

/-- **A sweep with valid parameters does not fail.** -/
theorem runs?_eq_ok (valid : lesson.params.Valid) (seeds : List UInt64) :
    (Sweep.mk lesson seeds).runs? = .ok (Sweep.mk lesson seeds).runs := by
  have hruns : (fun seed => (lesson.withSeed seed).complete?)
      = fun seed => pure (lesson.withSeed seed).complete :=
    funext (Lesson.complete?_withSeed valid)
  show seeds.mapM (fun seed => (lesson.withSeed seed).complete?) = _
  rw [hruns, List.mapM_pure]
  rfl

/-- **A sweep is its runs.** With valid parameters and one seed at least it begins and
does not fail. It returns one run per seed, in the order of the seeds and each complete,
which is the run of that seed alone. No run is the best if and only if none has an
answer; else, if estimates can be compared, it is the one that leads the list, whose
estimate is the highest and higher than all before it. For a number of seeds that follow
each other, the seeds are distinct and count up from that of the lesson, modulo the
number of words. -/
theorem runs_alone (valid : lesson.params.Valid) (hseeds : seeds ≠ []) :
    ofSeeds? lesson seeds = .ok ⟨lesson, seeds⟩ ∧
    (∃ runs : List (Run K),
      (Sweep.mk lesson seeds).runs? = .ok runs ∧ runs.length = seeds.length ∧
      (∀ (i : Nat) (seed : UInt64), seeds[i]? = some seed → ∃ run : Run K,
        runs[i]? = some run ∧
        (lesson.withSeed seed).complete? = .ok run ∧ run.lesson.params.seed = seed ∧
        run.learner.phase = .runComplete) ∧
      (best? runs = none ↔ ∀ run ∈ runs, run.solution? = none) ∧
      (Comparable K →
        (∀ run ∈ runs, ∀ a, run.solution? = some a → a.estimate ≤ a.estimate) →
        ∀ run, best? runs = some run ↔ ∃ i x, runs[i]? = some run ∧ Leads runs i x)) ∧
    ∀ count, 1 ≤ count → count < 2 ^ 64 → ∃ seeds,
      consecutive? lesson count = .ok ⟨lesson, seeds⟩ ∧
      seeds.length = count ∧ seeds.Nodup ∧
      ∀ i < count,
        seeds[i]?.map UInt64.toNat = some ((lesson.params.seed.toNat + i) % 2 ^ 64) := by
  refine ⟨ofSeeds?_eq_ok valid hseeds, ⟨_, runs?_eq_ok valid seeds, List.length_map _,
    fun i seed hi => ?_, best?_eq_none_iff_forall, fun hcomparable hself run => ?_⟩,
    fun count hpos hcount => ?_⟩
  · refine ⟨(lesson.withSeed seed).complete, ?_,
      Lesson.complete?_withSeed valid seed, rfl, Lesson.phase_complete valid⟩
    rw [runs, List.getElem?_map, hi, Option.map_some]
  · refine best?_eq_some_iff hcomparable fun run hrun x hx => ?_
    obtain ⟨a, ha, rfl⟩ := Option.map_eq_some_iff.mp hx
    exact hself run hrun a ha
  · have hlength := length_consecutiveSeeds lesson.params.seed count
    have hne : consecutiveSeeds lesson.params.seed count ≠ [] :=
      List.ne_nil_of_length_pos (hpos.trans_eq hlength.symm)
    refine ⟨_, ofSeeds?_eq_ok valid hne, hlength, nodup_consecutiveSeeds _ hcount.le,
      fun i hi => ?_⟩
    rw [consecutiveSeeds, List.getElem?_map, List.getElem?_range hi, Option.map_some,
      Option.map_some, toNat_add_toUInt64]

/-- A sweep over a run that learns nothing, one that learns little, and two that share
the highest estimate: the third of them leads. -/
theorem runs_alone_glimpse :
    Lesson.glimpse.params.Valid ∧ ([8, 5, 14, 7] : List UInt64) ≠ [] ∧ Comparable Float ∧
    ∃ runs, (Sweep.mk Lesson.glimpse [8, 5, 14, 7]).runs? = .ok runs ∧ runs.length = 4 ∧
      ∃ run, best? runs = some run ∧ run.lesson.params.seed = 14 ∧
        ∃ i x, runs[i]? = some run ∧ Leads runs i x := by
  have valid : Lesson.glimpse.params.Valid := by decide +kernel
  have hseeds : ([8, 5, 14, 7] : List UInt64) ≠ [] := List.cons_ne_nil _ _
  obtain ⟨_, ⟨runs, hruns, hlength, _, _, hbest⟩, _⟩ := runs_alone valid hseeds
  obtain rfl : (Sweep.mk Lesson.glimpse [8, 5, 14, 7]).runs = runs :=
    Except.ok.inj ((runs?_eq_ok valid _).symm.trans hruns)
  have hseed : (best? (Sweep.mk Lesson.glimpse [8, 5, 14, 7]).runs).map
      (·.lesson.params.seed) = some 14 := by
    decide +kernel
  obtain ⟨run, hrun, hseed⟩ := Option.map_eq_some_iff.mp hseed
  refine ⟨valid, hseeds, comparable_double, _, hruns, hlength, run, hrun, hseed,
    (hbest comparable_double (fun run hrun a ha => ?_) run).mp hrun⟩
  obtain ⟨seed, hmem, rfl⟩ := List.mem_map.mp hrun
  exact Lesson.estimates_glimpse seed hmem a.estimate
    (Option.map_eq_some_iff.mpr ⟨a, ha, rfl⟩)

/-! ## Listing the seeds -/

theorem estimateAt_runs (lesson : Lesson K) (seeds : List UInt64) (i : Nat) :
    estimateAt (Sweep.mk lesson seeds).runs i = seeds[i]?.bind lesson.estimateOf := by
  rw [estimateAt, runs, List.getElem?_map, Option.bind_map]
  rfl

theorem excels_of_leads {i : Nat} {x : K} (h : Leads (Sweep.mk lesson seeds).runs i x) :
    ∃ seed, seeds[i]? = some seed ∧ lesson.Excels seeds seed := by
  obtain ⟨seed, hi, hx⟩ := Option.bind_eq_some_iff.mp
    ((estimateAt_runs lesson seeds i).symm.trans h.estimateAt_eq)
  refine ⟨seed, hi, List.mem_of_getElem? hi, x, hx, fun other hother y hy => ?_⟩
  obtain ⟨j, hj⟩ := List.getElem?_of_mem hother
  refine h.le j y ?_
  rw [estimateAt_runs, hj]
  exact hy

/-- The first seed in a list that excels has the leading run: if an earlier one were as
high, it would excel as well. -/
theorem leads_of_excels (hcomparable : Comparable K) {i : Nat} {seed : UInt64}
    (hi : seeds[i]? = some seed) (hexcels : lesson.Excels seeds seed)
    (hfirst : ∀ j < i, ∀ other, seeds[j]? = some other → ¬ lesson.Excels seeds other) :
    ∃ x, Leads (Sweep.mk lesson seeds).runs i x := by
  obtain ⟨_, x, hx, hle⟩ := hexcels
  refine ⟨x, ?_, fun j y hy => ?_, fun j hj y hy hxy => ?_⟩
  · rw [estimateAt_runs, hi]
    exact hx
  · rw [estimateAt_runs] at hy
    obtain ⟨other, hother, hy⟩ := Option.bind_eq_some_iff.mp hy
    exact hle other (List.mem_of_getElem? hother) y hy
  · rw [estimateAt_runs] at hy
    obtain ⟨other, hother, hy⟩ := Option.bind_eq_some_iff.mp hy
    refine hfirst j hj other hother
      ⟨List.mem_of_getElem? hother, y, hy, fun s hs z hz => ?_⟩
    exact hcomparable.trans z x y (hle s hs z hz) hxy

/-- **The best run of a sweep is that of the first seed in the list that excels.** -/
theorem best?_runs (hcomparable : Comparable K)
    (hself : ∀ seed ∈ seeds, ∀ x ∈ lesson.estimateOf seed, x ≤ x) :
    best? (Sweep.mk lesson seeds).runs
      = (seeds.find? fun seed => lesson.Excels seeds seed).map fun seed =>
          (lesson.withSeed seed).complete := by
  have hself' : ∀ run ∈ (Sweep.mk lesson seeds).runs, ∀ x, run.estimate? = some x →
      x ≤ x :=
    fun run hrun x hx => by
      obtain ⟨seed, hseed, rfl⟩ := List.mem_map.mp hrun
      exact hself seed hseed x hx
  cases hfind : seeds.find? fun seed => lesson.Excels seeds seed with
  | none =>
    refine Option.eq_none_iff_forall_not_mem.mpr fun run hrun => ?_
    obtain ⟨i, x, _, hleads⟩ := (best?_eq_some_iff hcomparable hself').mp hrun
    obtain ⟨seed, hi, hexcels⟩ := excels_of_leads hleads
    have hnone := List.find?_eq_none.mp hfind seed (List.mem_of_getElem? hi)
    exact hnone (decide_eq_true hexcels)
  | some seed =>
    obtain ⟨hexcels, i, hi, rfl, hfirst⟩ := List.find?_eq_some_iff_getElem.mp hfind
    have hget : seeds[i]? = some seeds[i] := List.getElem?_eq_getElem hi
    obtain ⟨x, hleads⟩ := leads_of_excels hcomparable hget (of_decide_eq_true hexcels)
      fun j hj other hother => by
        obtain ⟨_, rfl⟩ := List.getElem?_eq_some_iff.mp hother
        simpa using hfirst j hj
    refine (best?_eq_some_iff hcomparable hself').mpr ⟨i, x, ?_, hleads⟩
    rw [runs, List.getElem?_map, hget, Option.map_some]

/-- The seed of the best run. -/
def bestSeed? (runs : List (Run K)) : Option UInt64 :=
  (best? runs).map (·.lesson.params.seed)

/-- The first in an ascending list with a property is the least with it. -/
theorem isLeast_of_find? {p : UInt64 → Prop} [DecidablePred p] {seed : UInt64}
    (hascending : seeds.Pairwise (· < ·)) (h : seeds.find? (fun s => p s) = some seed) :
    IsLeast {s | s ∈ seeds ∧ p s} seed := by
  obtain ⟨hseed, before, after, rfl, hbefore⟩ := List.find?_eq_some_iff_append.mp h
  refine ⟨⟨by simp, of_decide_eq_true hseed⟩, fun s ⟨hs, hps⟩ => ?_⟩
  rcases List.mem_append.mp hs with hs | hs
  · have hnot := hbefore s hs
    rw [decide_eq_true hps] at hnot
    cases hnot
  · rcases List.mem_cons.mp hs with rfl | hs
    · exact UInt64.le_refl s
    · exact UInt64.le_of_lt
        (List.rel_of_pairwise_cons (List.pairwise_append.mp hascending).2.1 hs)

theorem excels_of_find? {seed : UInt64}
    (h : (seeds'.find? fun s => lesson.Excels seeds s) = some seed) : lesson.Excels
      seeds seed := by
  have hseed := List.find?_some h
  exact of_decide_eq_true hseed

section Listing

variable (hcomparable : Comparable K)
  (hself : ∀ seed ∈ seeds, ∀ x ∈ lesson.estimateOf seed, x ≤ x)

include hcomparable hself

/-- Whichever way the seeds are listed, the first of them that excels is chosen. -/
theorem best?_runs_of_perm (hperm : seeds'.Perm seeds) :
    best? (Sweep.mk lesson seeds').runs
    = (seeds'.find? fun seed => lesson.Excels seeds seed).map fun seed =>
        (lesson.withSeed seed).complete := by
  rw [best?_runs hcomparable fun seed hseed => hself seed (hperm.mem_iff.mp hseed)]
  simp only [Lesson.excels_perm hperm]

theorem bestSeed?_runs_of_perm (hperm : seeds'.Perm seeds) :
    bestSeed? (Sweep.mk lesson seeds').runs
    = seeds'.find? fun seed => lesson.Excels seeds seed := by
  rw [bestSeed?, best?_runs_of_perm hcomparable hself hperm, Option.map_map]
  exact Option.map_id'

omit hcomparable hself in
/-- There is no best run if and only if no run has an answer. -/
theorem best?_runs_eq_none_iff (hperm : seeds'.Perm seeds) :
    best? (Sweep.mk lesson seeds').runs = none ↔
      ∀ seed ∈ seeds, (lesson.withSeed seed).complete.solution? = none := by
  rw [best?_eq_none_iff_forall, runs, List.forall_mem_map]
  exact forall_congr' fun seed => imp_congr_left hperm.mem_iff

/-- A seed that excels is chosen if it is listed first. -/
theorem bestSeed?_cons {seed : UInt64} (h : lesson.Excels seeds seed) :
    bestSeed? (Sweep.mk lesson (seed :: seeds.erase seed)).runs = some seed := by
  rw [bestSeed?_runs_of_perm hcomparable hself (List.perm_cons_erase h.1).symm]
  simp [h]

/-- If no two seeds excel, the order in which they are listed is of no consequence. -/
theorem bestSeed?_eq_of_perm (hperm : seeds'.Perm seeds)
    (h : ∀ seed other, lesson.Excels seeds seed → lesson.Excels seeds other →
      seed = other) :
    bestSeed? (Sweep.mk lesson seeds').runs = bestSeed? (Sweep.mk lesson seeds).runs := by
  rw [bestSeed?_runs_of_perm hcomparable hself hperm,
    bestSeed?_runs_of_perm hcomparable hself (List.Perm.refl seeds)]
  cases hfind : seeds.find? fun seed => lesson.Excels seeds seed with
  | none =>
    rw [List.find?_eq_none] at hfind ⊢
    exact fun seed hseed => hfind seed (hperm.mem_iff.mp hseed)
  | some seed =>
    have hseed := excels_of_find? hfind
    cases hfind' : seeds'.find? fun seed => lesson.Excels seeds seed with
    | none =>
      have hnot :=
        List.find?_eq_none.mp hfind' seed
          (hperm.mem_iff.mpr (List.mem_of_find?_eq_some hfind))
      exact absurd (decide_eq_true hseed) hnot
    | some other =>
      exact congrArg some (h _ _ (excels_of_find? hfind') hseed)

/-- **The best run of a sweep is that of the first seed in the list that excels**,
whichever way the seeds are listed, and there is none if and only if no run has an
answer. So it is that of the lowest of them where the seeds ascend, as seeds that follow
each other do until they pass the greatest word; and it does not depend on the list if
and only if no two seeds excel. -/
theorem bestSeed?_by_listing :
    (∀ seeds', seeds'.Perm seeds → best? (Sweep.mk lesson seeds').runs
      = (seeds'.find? fun seed => lesson.Excels seeds seed).map fun seed =>
          (lesson.withSeed seed).complete) ∧
    (∀ seeds', seeds'.Perm seeds → (best? (Sweep.mk lesson seeds').runs = none ↔
      ∀ seed ∈ seeds, (lesson.withSeed seed).complete.solution? = none)) ∧
    (∀ seeds', seeds'.Perm seeds → seeds'.Pairwise (· < ·) → ∀ seed,
      bestSeed? (Sweep.mk lesson seeds').runs = some seed →
        IsLeast {s | lesson.Excels seeds s} seed) ∧
    ((∀ seeds', seeds'.Perm seeds →
        bestSeed? (Sweep.mk lesson seeds').runs
          = bestSeed? (Sweep.mk lesson seeds).runs) ↔
      ∀ seed other, lesson.Excels seeds seed → lesson.Excels seeds other → seed = other) ∧
    ∀ (first : UInt64) (count : Nat), first.toNat + count ≤ 2 ^ 64 →
      (consecutiveSeeds first count).Pairwise (· < ·) := by
  refine ⟨fun seeds' => best?_runs_of_perm hcomparable hself,
    fun seeds' => best?_runs_eq_none_iff,
    fun seeds' hperm hascending seed hseed => ?_,
    ⟨fun h seed other hexcels hexcels' => ?_,
      fun h seeds' hperm => bestSeed?_eq_of_perm hcomparable hself hperm h⟩,
    fun first count => pairwise_consecutiveSeeds⟩
  · rw [bestSeed?_runs_of_perm hcomparable hself hperm] at hseed
    have hleast := isLeast_of_find? hascending hseed
    exact ⟨hleast.1.2, fun s hs => hleast.2 ⟨hperm.mem_iff.mpr hs.1, hs⟩⟩
  -- either of two seeds that excel is chosen where it is listed first
  · have hfirst := h _ (List.perm_cons_erase hexcels.1).symm
    have hfirst' := h _ (List.perm_cons_erase hexcels'.1).symm
    rw [bestSeed?_cons hcomparable hself hexcels] at hfirst
    rw [bestSeed?_cons hcomparable hself hexcels', ← hfirst] at hfirst'
    exact (Option.some.inj hfirst').symm

end Listing

/-- Of two seeds that share the highest estimate, in ascending order the lower one is
chosen. -/
theorem bestSeed?_by_listing_glimpse :
    Comparable Float ∧
      (∀ seed ∈ [8, 5, 14, 7], ∀ x ∈ Lesson.glimpse.estimateOf seed, x ≤ x) ∧
    ([5, 7, 8, 14] : List UInt64).Perm [8, 5, 14, 7] ∧
    ([5, 7, 8, 14] : List UInt64).Pairwise (· < ·) ∧
    IsLeast {s | Lesson.glimpse.Excels [8, 5, 14, 7] s} 7 := by
  have hself := Lesson.estimates_glimpse
  have hperm : ([5, 7, 8, 14] : List UInt64).Perm [8, 5, 14, 7] := by decide
  have hascending : ([5, 7, 8, 14] : List UInt64).Pairwise (· < ·) := by decide
  exact ⟨comparable_double, hself, hperm, hascending,
    (bestSeed?_by_listing comparable_double hself).2.2.1 _ hperm hascending 7
      (by decide +kernel)⟩

/-- **The best run need not be that of the lowest seed**: of two seeds that share the
highest estimate, the one that is listed first is chosen. -/
theorem bestSeed?_listed_downwards :
    Lesson.glimpse.params.Valid ∧ ([14, 7] : List UInt64).Nodup ∧
    ([7, 14] : List UInt64).Perm [14, 7] ∧
    Lesson.glimpse.estimateOf 14 = some 11.25 ∧ Lesson.glimpse.estimateOf 7 = some 11.25 ∧
    bestSeed? (Sweep.mk Lesson.glimpse [14, 7]).runs = some 14 ∧
    bestSeed? (Sweep.mk Lesson.glimpse [7, 14]).runs = some 7 := by
  refine ⟨?_, ?_, ?_, ?_⟩ <;> decide +kernel

end Sweep

end LatticeLP

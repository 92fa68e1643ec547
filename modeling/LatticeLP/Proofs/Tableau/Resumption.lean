import LatticeLP.Proofs.Tableau.Verdict

/-!
# Resuming an optimization

A budget may cut an optimization short anywhere: in the first phase, whose price row is
then thrown away, in the second, or exactly between the two. This module proves that
nothing is lost by it. Exact optimization resumed on the tableau that was left behind
makes the pivots that one optimization with both budgets would have gone on to make, and
ends as that one does (`Fit.resumes_optimize`); and one that ended at an optimum has
nothing left to do (`Fit.optimize_of_optimum`).

Two facts carry this, one for each phase. A first phase rebuilds its price row from the
basis it finds, and the row it rebuilds is the one that was discarded
(`Follows.withShortfall_pivots`), since in canonical form the rows and the objective on
their solutions leave no choice of prices (`Canonical.price_unique`). A second phase
leaves no artificial variable in the basis, and on such a tableau the first phase and
eviction have nothing to do (`Ready.optimize_eq`).
-/

namespace LatticeLP

/-! ## Outcomes of one kind -/

/-- **Two outcomes are of one kind**, the second after `spent` pivots more than the
first: both are successes, whose numbers of pivots differ by that many, or failures for
the same reason. Budgets are not compared. -/
inductive SameKind {K : Type} (spent : Nat) :
    Except (SolveError K) Nat → Except (SolveError K) Nat → Prop where
  /-- Both found an optimum. -/
  | optimal (pivots : Nat) : SameKind spent (.ok pivots) (.ok (spent + pivots))
  /-- Both ended with the same shortfall. -/
  | infeasible (shortfall : K) :
    SameKind spent (.error (.infeasible shortfall)) (.error (.infeasible shortfall))
  /-- Both ended at the same entering column. -/
  | unbounded (column : Nat) : SameKind spent (.error (.unbounded column))
    (.error (.unbounded column))
  /-- Both ran out of their budgets. -/
  | exhausted (budget budget' : Nat) :
    SameKind spent (.error (.exhausted budget)) (.error (.exhausted budget'))

/-- **One optimization takes up another** that made `spent` pivots by choice of Bland's
rule: together they are the optimization `whole`. -/
structure Resumes {K : Type} (spent : Nat) (first rest whole : Optimization
    K) : Prop where
  /-- It ends at the same tableau. -/
  tableau_eq : rest.tableau = whole.tableau
  /-- It makes the pivots that are left. -/
  cells_eq : whole.cells = first.cells ++ rest.cells
  /-- It ends in the same way. -/
  kind : SameKind spent rest.outcome whole.outcome

/-- Optimizations that end with one and the same ascent end in the same way, whatever
their budgets. -/
theorem Resumes.of_stop {K : Type} {spent : Nat} {first rest whole : Optimization K}
    (tableau_eq : rest.tableau = whole.tableau)
    (cells_eq : whole.cells = first.cells ++ rest.cells)
    (pivots_eq : whole.pivots = spent + rest.pivots) (stop : Stop) {budget budget' : Nat}
    (hrest : rest.verdict = stop.verdict budget)
    (hwhole : whole.verdict = stop.verdict budget') :
    Resumes spent first rest whole := by
  refine ⟨tableau_eq, cells_eq, ?_⟩
  rw [Optimization.outcome, Optimization.outcome, hrest, hwhole, pivots_eq]
  cases stop with
  | optimal => exact .optimal rest.pivots
  | unbounded column => exact .unbounded column
  | exhausted => exact .exhausted budget budget'

namespace Tableau

variable {t t' s : Tableau Rat} {cells : List Cell}

/-! ## The price row of an interrupted first phase -/

/-- Edges depend on the rows alone. -/
theorem along_congr (h : t.rows = t'.rows) : t.along = t'.along := by
  obtain ⟨_, _, _, _, _⟩ := t
  obtain ⟨_, _, _, _, _⟩ := t'
  dsimp only at h
  subst h
  rfl

/-- **Rows and objective leave no choice of prices**: tableaux in canonical form that
have the same rows and say the same have the same price row. -/
theorem Canonical.price_unique (ht : t.Canonical) (ht' : t'.Canonical)
    (he : t.Equivalent t') (hrows : t.rows = t'.rows) : t.price = t'.price := by
  -- both price rows tell how the objective changes along each edge
  have hchange : ∀ column y, t.value - y * t.price.coeff column
      = t'.value - y * t'.price.coeff column := fun column y => by
    rw [← ht.residual_price_along, ← ht'.residual_price_along, ← along_congr hrows,
      he.objective _ (ht.solves_along column y)]
  have hvalue : t.value = t'.value := by simpa using hchange 0 0
  have hcoeff : ∀ column, t.price.coeff column = t'.price.coeff column := fun column => by
    linarith [hchange column 1]
  have hwidth : t.price.coeffs.length = t'.price.coeffs.length := by
    rw [ht.price_width, ht'.price_width, he.width]
  refine congrArg₂ Equation.mk (List.ext_getElem hwidth fun j hj hj' => ?_) hvalue
  simpa [Equation.coeff, hj, hj'] using hcoeff j

theorem Equivalent.shortfallAt_eq (he : t.Equivalent t') (v : Nat → Rat) :
    t'.shortfallAt v = t.shortfallAt v := by
  rw [shortfallAt, he.artificials, he.firstArtificial, shortfallAt]

/-- **The price row that is rebuilt is the one that was discarded**: it makes no
difference whether pivots are made with the shortfall in the place of the objective or
the shortfall is put there after them. -/
theorem Follows.withShortfall_pivots (h : t.Follows Pivotal cells) (ht : t.Canonical) :
    (t.pivots cells).withShortfall = t.withShortfall.pivots cells := by
  obtain ⟨e, he⟩ := t.exists_carrying_pivots t.shortfallPrice cells
  rw [show t.carrying t.shortfallPrice = t.withShortfall from rfl] at he
  obtain ⟨hcan, heq⟩ := h.canonical ht
  have hfollows : t.withShortfall.Follows Pivotal cells :=
    h.pivotal_congr (show t.rows = t.withShortfall.rows from rfl)
  obtain ⟨hcan', heq'⟩ := hfollows.canonical ht.withShortfall
  rw [he] at hcan' heq' ⊢
  have hsay : (t.pivots cells).withShortfall.Equivalent ((t.pivots cells).carrying e) :=
    { decisions := rfl
      artificials := rfl
      height := rfl
      solves_iff := fun _ => Iff.rfl
      objective := fun v hv => by
        rw [heq'.residual_price ht hv, hcan.residual_withShortfall hv,
          heq.shortfallAt_eq] }
  exact congrArg (t.pivots cells).carrying
    (hcan.withShortfall.price_unique hcan' hsay rfl)

/-- **A first phase goes on where another was interrupted.** -/
theorem repairPhase_add (ht : t.Canonical) {first : Nat}
    (h : (t.repairPhase ⟨0, first⟩).stop = .exhausted) (more : Nat) :
    t.repairPhase ⟨0, first + more⟩ = (t.repairPhase ⟨0, first⟩).append
      ((t.pivots (t.repairPhase ⟨0, first⟩).cells).repairPhase ⟨0, more⟩) := by
  have hfollows : t.Follows Pivotal (t.repairPhase ⟨0, first⟩).cells :=
    follows_repairPhase le_rfl
  obtain ⟨_, heq⟩ := hfollows.canonical ht
  have hrest : (t.pivots (t.repairPhase ⟨0, first⟩).cells).repairPhase ⟨0, more⟩
      = (t.repairPhase ⟨0, first⟩).tableau.ascend
        (t.firstArtificial + t.artificials) 0 more := by
    rw [repairPhase, hfollows.withShortfall_pivots ht, heq.firstArtificial,
      heq.artificials, ← (isAscent_repairPhase t ⟨0, first⟩).tableau_eq]
  rw [hrest]
  exact ascend_add_of_exhausted h more

/-- It leaves the same tableau to the second phase. -/
theorem repaired_add (ht : t.Canonical) {first : Nat}
    (h : (t.repairPhase ⟨0, first⟩).stop = .exhausted) (more : Nat) :
    t.repaired ⟨0, first + more⟩
      = (t.pivots (t.repairPhase ⟨0, first⟩).cells).repaired ⟨0, more⟩ := by
  rw [repaired, repairPhase_add ht h more, Ascent.append, pivots_append, repaired]

/-! ## Optimising a tableau that is ready -/

/-- Where no artificial variable is basic, the shortfall is priced at its charges. -/
theorem Ready.shortfallPrice_eq (hs : s.Ready) : s.shortfallPrice = s.charges := by
  have hnone : s.rows.filter (s.firstArtificial ≤ ·.basic) = [] :=
    List.filter_eq_nil_iff.mpr fun row hrow => by simpa using hs.clear _ (mem_basics hrow)
  rw [shortfallPrice, hnone]
  rfl

/-- **A first phase has nothing to repair** where no artificial variable is basic. -/
theorem Ready.repairPhase_eq (hs : s.Ready) (budget : Nat) :
    s.repairPhase ⟨0, budget⟩ = ⟨s.withShortfall, [], .optimal⟩ := by
  refine ascend_of_entering?_eq_none (List.findIdx?_eq_none_iff.mpr fun c hc => ?_) budget
  have hmem : c ∈ s.shortfallPrice.coeffs := List.mem_of_mem_take hc
  rw [hs.shortfallPrice_eq, charges, List.mem_append] at hmem
  rcases hmem with hmem | hmem <;> obtain rfl := List.eq_of_mem_replicate hmem <;> simp

theorem Ready.eviction?_eq_none (hs : s.Ready) (tolerance : Rat) (row : Nat) :
    s.eviction? tolerance row = none := by
  cases h : s.eviction? tolerance row with
  | none => rfl
  | some cell =>
    obtain ⟨r, hr, hge, _⟩ := eviction?_eq_some_iff.mp h
    exact absurd (hs.clear _ (mem_basics (List.mem_of_getElem? hr))) (not_lt.mpr hge)

/-- Neither has eviction anything to evict. -/
theorem Ready.evictFrom_eq (hs : s.Ready) (tolerance : Rat) (rows : List Nat) :
    evictFrom tolerance rows s = (s, []) := by
  induction rows with
  | nil => rfl
  | cons row rows ih =>
    unfold evictFrom
    rw [hs.eviction?_eq_none]
    exact ih

/-- **Optimising a tableau that is ready is maximising its objective.** -/
theorem Ready.optimize_eq (hs : s.Ready) (budget : Nat) :
    s.optimize ⟨0, budget⟩
      = s.maximize 0 budget [] (if s.artificials = 0 then none else some []) := by
  by_cases h : s.artificials = 0
  · rw [optimize_of_artificials_eq_zero h, if_pos h]
  · have hphase := hs.repairPhase_eq budget
    have hshort : -(s.repairPhase ⟨0, budget⟩).tableau.value ≤ 0 := by
      rw [hphase, show s.withShortfall.value = s.shortfallPrice.rhs from rfl,
        hs.shortfallPrice_eq]
      simp [charges]
    have hrepaired : s.repaired ⟨0, budget⟩ = (s, []) := by
      rw [repaired, hphase]
      exact hs.evictFrom_eq 0 _
    rw [optimize_of_repaired h (by rw [hphase]) hshort, hrepaired, hphase, if_neg h]
    rfl

/-! ## Interruptions -/

/-- **A second phase goes on where another was interrupted.** -/
theorem Ready.resumes_maximize (hs : s.Ready) {budget b : Nat} {repair : List Cell}
    {evictions : Option (List Cell)}
    (h : (s.maximize 0 budget repair evictions).verdict = .error (.exhausted b))
    (more : Nat) :
    Resumes (repair.length + budget) (s.maximize 0 budget repair evictions)
      ((s.maximize 0 budget repair evictions).tableau.optimize ⟨0, more⟩)
      (s.maximize 0 (budget + more) repair evictions) := by
  have hphase := isAscent_ascend s.firstArtificial 0 budget s
  have hstop : (s.ascend s.firstArtificial 0 budget).stop = .exhausted :=
    stop_eq_exhausted_of_verdict h
  have hready : (s.ascend s.firstArtificial 0 budget).tableau.Ready := by
    rw [hphase.tableau_eq]
    exact (hs.pivots hphase.follows.ratio_of_bland).1
  have hcolumns : (s.ascend s.firstArtificial 0 budget).tableau.firstArtificial
      = s.firstArtificial := by
    rw [hphase.tableau_eq, firstArtificial_pivots]
  have hspent := hphase.exhausted hstop
  have hwhole := ascend_add_of_exhausted hstop more
  rw [show (s.maximize 0 budget repair evictions).tableau
    = (s.ascend s.firstArtificial 0 budget).tableau from rfl, hready.optimize_eq]
  simp only [maximize, hcolumns, hwhole]
  refine .of_stop rfl ?_ ?_ _ rfl rfl
  · simp only [Optimization.cells, Ascent.append, List.append_assoc]
    split <;> simp
  · simp [Optimization.pivots, Ascent.append, hspent, Nat.add_assoc]

/-- **An optimization goes on where another was interrupted in its first phase.** -/
theorem Canonical.resumes_repairPhase (ht : t.Canonical)
    (hartificials : t.artificials ≠ 0) {first : Nat}
    (hstop : (t.repairPhase ⟨0, first⟩).stop = .exhausted) (more : Nat) :
    Resumes first (t.optimize ⟨0, first⟩)
      ((t.optimize ⟨0, first⟩).tableau.optimize ⟨0, more⟩)
      (t.optimize ⟨0, first + more⟩) := by
  have hspent : (t.repairPhase ⟨0, first⟩).cells.length = first :=
    (isAscent_repairPhase t ⟨0, first⟩).exhausted hstop
  have hphase := repairPhase_add ht hstop more
  rw [optimize_of_not_optimal hartificials (o := ⟨0, first⟩) (by rw [hstop]; simp)]
  have hartificials' : (t.pivots (t.repairPhase ⟨0, first⟩).cells).artificials ≠ 0 := by
    have hfollows : t.Follows Pivotal (t.repairPhase ⟨0, first⟩).cells :=
      follows_repairPhase le_rfl
    rwa [(hfollows.canonical ht).2.artificials]
  -- the first phase of the whole is the one that was interrupted and that of the rest
  by_cases hrest :
      ((t.pivots (t.repairPhase ⟨0, first⟩).cells).repairPhase ⟨0, more⟩).stop = .optimal
  · by_cases hshort :
        -((t.pivots (t.repairPhase ⟨0, first⟩).cells).repairPhase ⟨0, more⟩).tableau.value
          ≤ 0
    · rw [optimize_of_repaired hartificials' hrest hshort,
        optimize_of_repaired hartificials (by rw [hphase]; exact hrest)
          (by rw [hphase]; exact hshort)]
      have hbudget : first + more - (t.repairPhase ⟨0, first + more⟩).cells.length
          = more - ((t.pivots (t.repairPhase ⟨0, first⟩).cells).repairPhase
            ⟨0, more⟩).cells.length := by
        rw [hphase, Ascent.append, List.length_append, hspent, Nat.add_sub_add_left]
      rw [repaired_add ht hstop more, hbudget, hphase]
      refine .of_stop rfl ?_ ?_ _ rfl rfl
      · simp [Optimization.cells, Ascent.append, maximize]
      · simp [Optimization.pivots, Ascent.append, maximize, hspent, Nat.add_assoc]
    · rw [optimize_of_shortfall hartificials' hrest hshort,
        optimize_of_shortfall hartificials (by rw [hphase]; exact hrest)
          (by rw [hphase]; exact hshort), hphase]
      refine ⟨(pivots_append _ _ _).symm, by simp [Optimization.cells, Ascent.append], ?_⟩
      exact .infeasible _
  · rw [optimize_of_not_optimal hartificials' hrest,
      optimize_of_not_optimal hartificials (by rw [hphase]; exact hrest), hphase]
    refine .of_stop (pivots_append _ _ _).symm ?_ ?_ _ rfl rfl
    · simp [Optimization.cells, Ascent.append]
    · simp [Optimization.pivots, Ascent.append, hspent]

/-- **An interrupted optimization can be resumed.** -/
theorem Fit.resumes_optimize (ht : t.Fit) {first b : Nat}
    (h : (t.optimize ⟨0, first⟩).verdict = .error (.exhausted b)) (more : Nat) :
    Resumes first (t.optimize ⟨0, first⟩)
      ((t.optimize ⟨0, first⟩).tableau.optimize ⟨0, more⟩)
      (t.optimize ⟨0, first + more⟩) := by
  by_cases hartificials : t.artificials = 0
  · have hready := ht.toCanonical.ready ht.nonneg hartificials
    rw [optimize_of_artificials_eq_zero hartificials] at h ⊢
    rw [optimize_of_artificials_eq_zero hartificials ⟨0, first + more⟩]
    simpa using hready.resumes_maximize h more
  cases hstop : (t.repairPhase ⟨0, first⟩).stop with
  | unbounded column =>
    rw [optimize_of_stopped hartificials (by rw [hstop]; rfl)] at h
    cases h
  | optimal =>
    by_cases hshort : -(t.repairPhase ⟨0, first⟩).tableau.value ≤ 0
    · -- the first phase is over, and a larger budget changes nothing in it
      have hphase : t.repairPhase ⟨0, first + more⟩ = t.repairPhase ⟨0, first⟩ :=
        repairPhase_add_of_ended (by rw [hstop]; simp) more
      have hready := (ready_repaired ht.toCanonical ht.nonneg ht.free hshort).1
      have hle := (isAscent_repairPhase t ⟨0, first⟩).length_le
      have hrepaired : t.repaired ⟨0, first + more⟩ = t.repaired ⟨0, first⟩ := by
        rw [repaired, hphase, repaired]
      rw [optimize_of_repaired hartificials hstop hshort] at h ⊢
      rw [optimize_of_repaired hartificials (hphase ▸ hstop) (hphase ▸ hshort),
        hphase, hrepaired]
      have hresumes := hready.resumes_maximize h more
      rwa [← Nat.sub_add_comm hle, Nat.add_sub_cancel' hle] at hresumes
    · rw [optimize_of_shortfall hartificials hstop hshort] at h
      cases h
  | exhausted => exact ht.toCanonical.resumes_repairPhase hartificials hstop more

/-- **At an optimum there is nothing left to do.** -/
theorem Fit.optimize_of_optimum (ht : t.Fit) {first : Nat}
    (h : (t.optimize ⟨0, first⟩).verdict = .ok ()) (more : Nat) :
    ((t.optimize ⟨0, first⟩).tableau.optimize ⟨0, more⟩).outcome = .ok 0 ∧
      ((t.optimize ⟨0, first⟩).tableau.optimize ⟨0, more⟩).tableau
        = (t.optimize ⟨0, first⟩).tableau := by
  have hjust := ht.justified_optimize first
  rw [h] at hjust
  obtain ⟨⟨hready, _⟩, henter⟩ := hjust
  have hrest : ∀ evictions, (t.optimize ⟨0, first⟩).tableau.maximize 0 more [] evictions
      = ⟨(t.optimize ⟨0, first⟩).tableau, [], evictions, [], .ok ()⟩ :=
        fun evictions => by
    rw [maximize, ascend_of_entering?_eq_none henter]
    rfl
  rw [hready.optimize_eq, hrest]
  exact ⟨rfl, rfl⟩

/-- **Optimization is resumable** with the tolerance at zero, on the tableau of a
program and on all that exact optimizations make of it. One that ran out of a budget,
followed by another, ends at the tableau and in the way of one with both budgets, of
whose pivots it reports those that were left; and one that found an optimum is followed
by one that makes no pivot and changes nothing. -/
theorem optimize_resumes {objective bounds : List Rat} {matrix : List (List Rat)}
    {t₀ : Tableau Rat}
    (shape : ofDense? objective matrix bounds = .ok t₀) {os : List (Options Rat)}
    (hos : ∀ o ∈ os, o.tolerance = 0) (hs : t₀.optimizeAll os = s) (first more : Nat) :
    (∀ b, (s.optimize ⟨0, first⟩).verdict = .error (.exhausted b) →
      Resumes first (s.optimize ⟨0, first⟩)
        ((s.optimize ⟨0, first⟩).tableau.optimize ⟨0, more⟩)
        (s.optimize ⟨0, first + more⟩)) ∧
    ((s.optimize ⟨0, first⟩).verdict = .ok () →
      ((s.optimize ⟨0, first⟩).tableau.optimize ⟨0, more⟩).outcome = .ok 0 ∧
        ((s.optimize ⟨0, first⟩).tableau.optimize ⟨0, more⟩).tableau
          = (s.optimize ⟨0, first⟩).tableau) := by
  have hfit : s.Fit := hs ▸ (fit_of_ofDense? shape).optimizeAll hos
  exact ⟨fun _ h => hfit.resumes_optimize h more,
    fun h => hfit.optimize_of_optimum h more⟩

/-- A program that takes one pivot in its first phase and two in its second, stopped
between the phases. -/
theorem optimize_resumes_between_phases : ∃ t₀ : Tableau Rat,
    ofDense? [1, 1] [[1, 2], [-1, 0]] [4, -1] = .ok t₀ ∧
      (t₀.optimize ⟨0, 1⟩).verdict = .error (.exhausted 0) ∧
      Resumes 1 (t₀.optimize ⟨0, 1⟩) ((t₀.optimize ⟨0, 1⟩).tableau.optimize ⟨0, 2⟩)
        (t₀.optimize ⟨0, 3⟩) ∧
      (t₀.optimize ⟨0, 3⟩).outcome = .ok 3 ∧
      ((t₀.optimize ⟨0, 3⟩).tableau.optimize ⟨0, 5⟩).outcome = .ok 0 := by
  have shape : ofDense? [1, 1] [[1, 2], [-1, 0]] [4, -1]
    = .ok (start [1, 1] [⟨[1, 2], 4⟩, ⟨[-1, 0], (-1 : Rat)⟩]) := rfl
  have hstopped :
    ((start [1, 1] [⟨[1, 2], 4⟩, ⟨[-1, 0], (-1 : Rat)⟩]).optimize ⟨0, 1⟩).verdict
    = .error (.exhausted 0) := by decide +kernel
  have hoptimum :
    ((start [1, 1] [⟨[1, 2], 4⟩, ⟨[-1, 0], (-1 : Rat)⟩]).optimize ⟨0, 3⟩).verdict
    = .ok () := by decide +kernel
  have hnone : ∀ o ∈ ([] : List (Options Rat)), o.tolerance = 0 := fun _ ho => nomatch ho
  exact ⟨_, shape, hstopped,
    (optimize_resumes shape hnone rfl 1 2).1 0 hstopped, by decide +kernel,
    ((optimize_resumes shape hnone rfl 3 5).2 hoptimum).1⟩

end Tableau

end LatticeLP

import LatticeLP.Proofs.Comparison.Drawing
import LatticeLP.Proofs.Console.Faults
import LatticeLP.Proofs.Learner.Sweep

/-!
# How a session ends

A session has two parts. The first reads, checks and solves, and can fail; what it comes
to is the task. The second learns and reports, and cannot: every operation in it that
might fail for some input or other is given one for which it does not. The parameters
that a run checks are those that were checked before but for the seed; there is a seed
even if none is asked for; of the runs at least one is left to be reported; and there is
a cell wherever something is drawn. So a session fails before it learns or not at all
(`fails_before_learning_or_not_at_all`).

All this is said of any console. A session reads the clock of its console, so how long a
run took is not known beforehand; what it learned is (`returns_complete`). It takes the
time and the memory that it needs: nothing here bounds the number of seeds or episodes.
-/

namespace LatticeLP

/-! ## Runs and clocks -/

namespace Run

variable {K : Type} {run : Run K}

/-- The run, had it taken another time. -/
def timed (run : Run K) (elapsed : Span) : Run K :=
  { run with elapsed }

/-- The run as if nobody had looked at a clock. -/
def untimed (run : Run K) : Run K :=
  run.timed .zero

theorem timed_untimed (run : Run K) : run.untimed.timed run.elapsed = run :=
  rfl

end Run

namespace Sweep

variable {K : Type} [Scalar K]

theorem better_untimed (best : Option (Run K × K)) (run : Run K) :
    better (best.map (Prod.map Run.untimed id)) run.untimed
      = (better best run).map (Prod.map Run.untimed id) := by
  have hsolution : run.untimed.solution? = run.solution? := rfl
  unfold better
  rw [hsolution]
  cases run.solution? with
  | none => rfl
  | some learned =>
    cases best with
    | none => rfl
    | some leader => simp only [Option.map_some, Prod.map, id]; split <;> rfl

/-- **The choice among runs does not look at the time they took.** -/
theorem best?_map_untimed (runs : List (Run K)) :
    best? (runs.map Run.untimed) = (best? runs).map Run.untimed := by
  have hfold : runs.foldl (fun best run => better best run.untimed)
      ((none : Option (Run K × K)).map (Prod.map Run.untimed id))
      = (runs.foldl better none).map (Prod.map Run.untimed id) :=
    List.foldl_hom _ better_untimed
  rw [Option.map_none] at hfold
  rw [best?, List.foldl_map, hfold, best?, Option.map_map, Option.map_map]
  rfl

end Sweep

/-- A console on which nothing can be printed and nobody can complain. It shares its log
and its clock. -/
def Console.muted {m : Type → Type} [Monad m] (console : Console m) : Console m :=
  { console with print := fun _ => pure (), complain := fun _ => pure () }

namespace Session

variable {m : Type → Type} [Monad m] [LawfulMonad m] {α β : Type}

/-! ## What a computation returns -/

/-- **A computation returns nothing but what has a property**: whatever is done with its
result, it is enough to know what is done with results that have the property. The
results themselves cannot be looked at, since the monad is any. -/
def Returns (x : m α) (p : α → Prop) : Prop :=
  ∀ ⦃β : Type⦄ ⦃f g : α → m β⦄, (∀ a, p a → f a = g a) → x >>= f = x >>= g

theorem returns_pure {p : α → Prop} {a : α} (h : p a) :
    Returns (pure a : m α) p := fun β f g hfg => by
  rw [pure_bind, pure_bind, hfg a h]

theorem returns_bind {x : m α} {k : α → m β} {q : β → Prop} (hk : ∀ a, Returns (k a) q) :
    Returns (x >>= k) q := fun γ f g hfg => by
  rw [bind_assoc, bind_assoc]
  exact bind_congr fun a => hk a hfg

omit [LawfulMonad m] in
theorem Returns.imp {x : m α} {p q : α → Prop} (hx : Returns x p)
    (h : ∀ a, p a → q a) : Returns x q :=
  fun _ _ _ hfg => hx fun a ha => hfg a (h a ha)

theorem returns_ite_bind {c : Prop} [Decidable c] {x : m Unit} {k : m α} {p : α → Prop}
    (hk : Returns k p) :
    Returns (if c then x >>= fun _ => k else k) p := by
  split
  · exact returns_bind fun _ => hk
  · exact hk

theorem Returns.bind {x : m α} {p : α → Prop} {k : α → m β} {q : β → Prop}
    (hx : Returns x p)
    (hk : ∀ a, p a → Returns (k a) q) : Returns (x >>= k) q := fun γ f g hfg => by
  rw [bind_assoc, bind_assoc]
  exact hx fun a ha => hk a ha hfg

theorem returns_mapM {xs : List α} {f : α → m β} {p : α → β → Prop}
    (h : ∀ a ∈ xs, Returns (f a) (p a)) : Returns (xs.mapM f) (List.Forall₂ p xs) := by
  induction xs with
  | nil => exact returns_pure .nil
  | cons a xs ih =>
    rw [List.forall_mem_cons] at h
    rw [List.mapM_cons]
    exact h.1.bind fun b hb => (ih h.2).bind fun bs hbs => returns_pure (.cons hb hbs)

/-! ## Running what can fail -/

theorem run_mapM_monadLift {ε : Type} (xs : List α) (f : α → m β) :
    (xs.mapM fun a => (monadLift (f a) : ExceptT ε m β)).run
      = Except.ok <$> xs.mapM f := by
  induction xs with
  | nil => simp
  | cons a xs ih => simp [List.mapM_cons, ExceptT.run_bind, ih, Except.map]

omit [LawfulMonad m] in
theorem ofExcept_ok {ε : Type} (a : α) : (ofExcept (.ok a) : ExceptT ε m α) = pure a :=
  rfl

theorem run_liftM_bind {ε : Type} (x : m α) (f : α → ExceptT ε m β) :
    (liftM x >>= f).run = x >>= fun a => (f a).run := by
  simp [ExceptT.run_bind]

theorem run_ofExcept_error_bind {ε : Type} (e : ε) (f : α → ExceptT ε m β) :
    (ofExcept (.error e) >>= f).run = pure (.error e) := by
  rw [ExceptT.run_bind]
  exact pure_bind _ _

/-! ## Learning -/

variable {console : Console m} {verbose : Bool} {s : Settings} {lesson : Lesson Float}
  {exact : Optimum Float} {e : SessionError}

theorem returns_episodes (began : Nat) {count : Nat} {l : Learner Float}
    {elapsed : Span} :
    Returns (episodes console verbose lesson began count l elapsed)
      fun r => r.1 = lesson.advances (count * lesson.episodeLength) l := by
  induction count generalizing l elapsed with
  | zero => exact returns_pure (by rw [Nat.zero_mul, Lesson.advances_zero])
  | succ count ih =>
    rw [Nat.succ_mul, Nat.add_comm (count * _), Lesson.advances_add]
    refine returns_bind fun now => ?_
    refine returns_ite_bind ?_
    exact returns_ite_bind ih

/-- **A run that is watched is the run**, but for the time it takes. -/
theorem returns_complete :
    Returns (complete console verbose lesson lesson.start) fun run =>
      run.untimed = lesson.complete := by
  refine returns_ite_bind (returns_bind fun _ => returns_bind fun began => ?_)
  refine (returns_episodes began).bind fun ⟨learner, elapsed⟩ hlearner => ?_
  subst hlearner
  simp only []
  split
  · exact returns_bind fun _ => returns_pure rfl
  · exact returns_bind fun _ => returns_pure rfl

/-! ## The run that is reported -/

/-- Of the runs that were carried out, if any, one is left to be reported. -/
theorem exists_reported? {runs : List (Run Float)} (hruns : runs ≠ []) :
    ∃ best, reported? runs = .ok best := by
  obtain ⟨first, rest, rfl⟩ := List.exists_cons_of_ne_nil hruns
  unfold reported?
  cases Sweep.best? (first :: rest) with
  | none => exact ⟨first, rfl⟩
  | some best => exact ⟨best, rfl⟩

theorem reported?_map_untimed (runs : List (Run Float)) :
    reported? (runs.map Run.untimed) = (reported? runs).map Run.untimed := by
  unfold reported?
  rw [Sweep.best?_map_untimed, List.head?_map, ← Option.map_or]
  cases (Sweep.best? runs).or runs.head? <;> rfl

/-- The time that the reported run took. -/
def reportedSpan (runs : List (Run Float)) : Span :=
  match reported? runs with
  | .ok best => best.elapsed
  | .error _ => .zero

/-- Of runs that took some time, the reported one is that of the runs as if they had
taken none. -/
theorem reported?_eq_timed {timed runs : List (Run Float)} {best : Run Float}
    (h : timed.map Run.untimed = runs) (hbest : reported? runs = .ok best) :
    reported? timed = .ok (best.timed (reportedSpan timed)) := by
  rw [← h, reported?_map_untimed] at hbest
  unfold reportedSpan
  cases htimed : reported? timed with
  | error e =>
    rw [htimed] at hbest
    cases hbest
  | ok run =>
    rw [htimed] at hbest
    rw [← Except.ok.inj hbest]
    exact congrArg Except.ok run.timed_untimed.symm

theorem choiceRecords_untimed (runs : List (Run Float)) (best : Run Float)
    (elapsed : Span) :
    choiceRecords runs (best.timed elapsed)
      = choiceRecords (runs.map Run.untimed) best := by
  unfold choiceRecords
  rw [List.length_map, List.map_map]
  rfl

/-! ## The report -/

/-- **Every comparison can be plotted.** -/
theorem exists_plot? (c : Comparison Float) : ∃ text, plot? c = .ok text := by
  have hnarrow : Plot.standard.width < Text.widest := by decide
  obtain ⟨text, htext⟩ := Plot.exists_text? hnarrow c
  exact ⟨text, by rw [plot?, htext]⟩

/-- What is printed of a comparison. -/
def printed (s : Settings) (c : Comparison Float) : List String :=
  if s.json then [c.document.pretty]
  else c.table false :: if s.plot then (plot? c).toOption.toList else []

/-- **A report does not fail.** -/
theorem run_report (c : Comparison Float) :
    (report console s c).run = (do
      (printed s c).forM console.print
      pure (.ok ())) := by
  obtain ⟨text, htext⟩ := exists_plot? c
  unfold report printed
  split
  · simp
  · split
    · simp only [htext, ofExcept_ok, pure_bind, run_liftM_bind]
      simp [Except.toOption]
    · simp

/-! ## Before learning -/

/-- What is logged before it is known whether there is a task. -/
def preamble (s : Settings) : List (Level × String) :=
  match s.lesson? with
  | .ok lesson =>
    problemRecords s.verbose lesson.program (lesson.program.tableau.optimize .standard)
  | .error _ => []

omit [LawfulMonad m] in
theorem logAll_nil (console : Console m) : logAll console [] = pure () :=
  rfl

/-- **Without a task nothing is learned.** -/
theorem run_attempt_of_error (h : s.task? = .error e) :
    (attempt console s).run = (do
      logAll console (preamble s)
      pure (.error e)) := by
  unfold attempt preamble
  rcases Settings.task?_eq_error_iff.mp h with hlesson | ⟨lesson, hlesson, hexact⟩
  · simp only [hlesson, run_ofExcept_error_bind, logAll_nil, pure_bind]
  · have hoptimum : (lesson.program.tableau.optimize .standard).optimum?.mapError .solve
        = .error e :=
      hexact
    simp only [hlesson, ofExcept_ok, pure_bind, run_liftM_bind, hoptimum,
      run_ofExcept_error_bind]

theorem run_attempt_of_ok (h : s.task? = .ok (lesson, exact)) :
    (attempt console s).run = (do
      logAll console (preamble s)
      console.log .info ("simplex optimum " ++ exact.text)
      (sweep console s lesson exact).run) := by
  obtain ⟨hlesson, hexact⟩ := Settings.task?_eq_ok_iff.mp h
  have hoptimum : (lesson.program.tableau.optimize .standard).optimum? = .ok exact :=
    hexact
  unfold attempt preamble
  simp only [hlesson, ofExcept_ok, pure_bind, run_liftM_bind, hoptimum, mapError_ok]

/-! ## The whole -/

/-- **The work between the arguments and the report**: what is logged, and the runs for
all seeds. It comes to the time that the reported run took. -/
def study (console : Console m) (s : Settings) (exact : Optimum Float)
    (sweep : Sweep Float) (best : Run Float) : m Span := do
  logAll console (preamble s)
  console.log .info ("simplex optimum " ++ exact.text)
  console.log .info s!"sweeping {sweep.seeds.length} seeds in parallel"
  let runs ← sweep.seeds.mapM fun seed =>
    complete console s.verbose (sweep.lesson.withSeed seed)
      (sweep.lesson.withSeed seed).start
  logAll console (choiceRecords sweep.runs best)
  pure (reportedSpan runs)

omit [LawfulMonad m] in
theorem logAll_muted (console : Console m) (records : List (Level × String)) :
    logAll console.muted records = logAll console records :=
  rfl

omit [LawfulMonad m] in
theorem episodes_muted (console : Console m) (began count : Nat) (l : Learner Float)
    (elapsed : Span) :
    episodes console.muted verbose lesson began count l elapsed
      = episodes console verbose lesson began count l elapsed := by
  induction count generalizing l elapsed with
  | zero => rfl
  | succ count ih =>
    simp only [episodes, ih]
    rfl

omit [LawfulMonad m] in
/-- While it works, a session prints nothing and does not complain. -/
theorem study_muted (console : Console m) :
    study console.muted s exact = study console s exact := by
  have hcomplete : ∀ lesson l, complete console.muted s.verbose lesson l
      = complete console s.verbose lesson l := fun lesson l => by
    simp only [complete, episodes_muted]
    rfl
  funext sweep best
  simp only [study, hcomplete, logAll_muted]
  rfl

/-- With valid parameters, the learning of a sweep does not fail. -/
theorem run_mapM_learn (valid : lesson.params.Valid) (seeds : List UInt64) :
    (seeds.mapM fun seed => learn console verbose (lesson.withSeed seed)).run
      = Except.ok <$> seeds.mapM fun seed =>
          complete console verbose (lesson.withSeed seed)
            (lesson.withSeed seed).start := by
  have hlearn : (fun seed => learn console verbose (lesson.withSeed seed)) = fun seed =>
      (monadLift
        (complete console verbose (lesson.withSeed seed) (lesson.withSeed seed).start) :
        ExceptT SessionError m (Run Float)) := by
    funext seed
    have hstart : (lesson.withSeed seed).start? = .ok (lesson.withSeed seed).start :=
      Lesson.start?_eq_ok_iff.mpr ⟨valid, rfl⟩
    simp only [learn, hstart, mapError_ok, ofExcept_ok, pure_bind]
  rw [hlearn, run_mapM_monadLift]

/-- **The runs that are watched are the runs of the sweep**, but for the time they
take. -/
theorem returns_mapM_complete (lesson : Lesson Float) (seeds : List UInt64) :
    Returns (seeds.mapM fun seed =>
        complete console verbose (lesson.withSeed seed) (lesson.withSeed seed).start)
      fun runs => runs.map Run.untimed = (Sweep.mk lesson seeds).runs := by
  refine (returns_mapM fun seed _ => returns_complete).imp fun runs hruns => ?_
  induction hruns with
  | nil => rfl
  | cons hrun _ ih => exact congrArg₂ List.cons hrun ih

/-- **The learning of a task does not fail**, and the run that is reported is known but
for the time it took. -/
theorem run_attempt_eq_study {seeds : List UInt64} {best : Run Float}
    (h : s.task? = .ok (lesson, exact))
    (hsweep : Sweep.consecutive? lesson (max s.seeds 1) = .ok ⟨lesson, seeds⟩)
    (hbest : reported? (Sweep.mk lesson seeds).runs = .ok best) :
    (attempt console s).run = (do
      let elapsed ← study console s exact ⟨lesson, seeds⟩ best
      (printed s (.ofRun (best.timed elapsed) exact)).forM console.print
      pure (.ok ())) := by
  have valid := Settings.valid_of_task?_eq_ok h
  rw [run_attempt_of_ok h]
  unfold sweep study
  simp only [hsweep, mapError_ok, ofExcept_ok, pure_bind, run_liftM_bind, bind_assoc]
  refine bind_congr fun _ => bind_congr fun _ => bind_congr fun _ => ?_
  rw [ExceptT.run_bind, run_mapM_learn valid, bind_map_left]
  refine returns_mapM_complete lesson seeds fun runs hruns => ?_
  have hreported := reported?_eq_timed hruns hbest
  simp only [hreported, ofExcept_ok, pure_bind, run_liftM_bind, run_report,
    choiceRecords_untimed, hruns]

end Session

end LatticeLP

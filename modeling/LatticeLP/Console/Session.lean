import LatticeLP.Comparison.Plot
import LatticeLP.Comparison.Report
import LatticeLP.Console.Arguments
import LatticeLP.Console.Basic
import LatticeLP.Plane.Text

/-!
# Sessions

A session reads its program, checks its parameters, solves the program exactly, learns
it once per seed, and reports the best run beside the exact optimum. What can fail is
tried in this order: the objective's text, the texts of the constraints, the numbers in
them, the parameters, and the exact solution. The sweep checks the parameters again
before it begins, and so does every run of it; a run to report is found even if nothing
was learned. The first failure ends the session.

The work is logged as it goes. Details – the phases of the exact solution and the end of
every episode – appear only when they are asked for.
-/

namespace LatticeLP

/-- Why a session fails. -/
inductive SessionError where
  /-- A text could not be read. -/
  | text (cause : TextError)
  /-- The numbers do not make a program. -/
  | program (cause : ProgramError)
  /-- The parameters are faulty. -/
  | params (cause : ParamsError Float)
  /-- There is no optimum. -/
  | solve (cause : SolveError Float)
  /-- The sweep cannot begin. -/
  | sweep (cause : SweepError Float)
  /-- There is no such run, or no such cell of a plot. -/
  | outOfBounds

namespace SessionError

/-- What is said about a session error. -/
def message : SessionError → String
  | .text cause => "Error: " ++ cause.message
  | .program cause => "Error: " ++ cause.message
  | .params cause => "Error: " ++ cause.message
  | .solve cause => "Error: " ++ cause.message
  | .sweep cause => "Error: " ++ cause.message
  | .outOfBounds => "index out of bounds"

/-- How a session that fails exits. To look for what is not there is no error but a
breakdown. -/
def exitCode : SessionError → Nat
  | .outOfBounds => 101
  | _ => 1

end SessionError

namespace Settings

/-- The objective that the settings ask for. -/
def objective? (s : Settings) : Except SessionError (LinearForm Float) :=
  match s.objective with
  | none => .ok Program.sample.objective
  | some text => (LinearForm.read? text).mapError .text

/-- The constraints that the settings ask for. -/
def constraints? (s : Settings) : Except SessionError (List (Constraint Float)) :=
  if s.constraints.isEmpty then .ok Program.sample.constraints
  else (s.constraints.mapM Constraint.read?).mapError .text

/-- **The program that the settings ask for.** -/
def program? (s : Settings) : Except SessionError (Program Float) := do
  let objective ← s.objective?
  let constraints ← s.constraints?
  (Program.ofParts? objective constraints).mapError .program

/-- **The lesson that the settings ask for**, its parameters checked. -/
def lesson? (s : Settings) : Except SessionError (Lesson Float) := do
  let program ← s.program?
  s.params.check.mapError .params
  pure ⟨program, s.params, s.schedule⟩

end Settings

namespace Session

variable {m : Type → Type} [Monad m]

/-- Write several records to the log. -/
def logAll (console : Console m) (records : List (Level × String)) : m Unit :=
  records.forM fun record => console.log record.1 record.2

/-! ## Solving -/

/-- The details of an optimization. -/
def optimizationDetails (o : Optimization Float) : List String :=
  (match o.evictions with
    | some _ => [s!"phase one reached a feasible vertex in {o.repair.length} pivots"]
    | none => []) ++
  (match o.optimum? with
    | .ok optimum =>
      [s!"simplex converged in {optimum.pivots} pivots at " ++ optimum.point.text]
    | .error _ => [])

/-- What is logged about a program and its optimization. -/
def problemRecords (verbose : Bool) (p : Program Float) (o : Optimization Float) :
    List (Level × String) :=
  (.info, "problem\n" ++ p.text) ::
    if verbose then (optimizationDetails o).map fun detail => (.debug, detail) else []

/-! ## Learning -/

/-- The announcement of a run. -/
def announcement (p : Params Float) : String :=
  s!"learning {p.episodes} episodes x {p.steps} steps (ε=" ++ numberText p.epsilon
    ++ " α=" ++
    numberText p.alpha ++ " γ=" ++ numberText p.gamma ++ " step=" ++ numberText p.step ++
    s!" seed={p.seed})"

/-- The record of the end of an episode. -/
def episodeDetail (l : Learner Float) : String :=
  "episode " ++ Text.padLeft 6 (toString l.episode) ++ " ended at " ++ l.position.text ++
    s!" with {l.table.size} states"

/-- After how many episodes the counters of a run are logged. -/
def logInterval : Nat := 100

/-- Go through several episodes, and say when the last of them ended. -/
def episodes (console : Console m) (verbose : Bool) (lesson : Lesson Float)
    (began : Nat) :
    (count : Nat) → Learner Float → Span → m (Learner Float × Span)
  | 0, l, elapsed => pure (l, elapsed)
  | count + 1, l, _ => do
    let l := lesson.advances lesson.episodeLength l
    let now ← console.clock
    let elapsed := Span.ofNanoseconds (now - began)
    if verbose then console.log .debug (episodeDetail l)
    if l.episode % logInterval = 0 then console.log .info (l.tally.text elapsed)
    episodes console verbose lesson began count l elapsed

/-- Carry out a run from where it begins. -/
def complete (console : Console m) (verbose : Bool) (lesson : Lesson Float)
    (learner : Learner Float) :
    m (Run Float) := do
  if ¬ lesson.program.Feasible .origin then
    console.log .warn "origin is infeasible, every episode starts outside the region"
  console.log .info (announcement lesson.params)
  let began ← console.clock
  let (learner, elapsed) ← episodes console verbose lesson began lesson.params.episodes
    learner .zero
  let run : Run Float := ⟨lesson, learner, elapsed⟩
  match run.solution? with
  | some learned => console.log .info ("learning complete, best state " ++ learned.text)
  | none => console.log .warn "learning complete, no move was ever accepted"
  pure run

/-- **Carry out a run**, its parameters checked first. -/
def learn (console : Console m) (verbose : Bool) (lesson : Lesson Float) :
    ExceptT SessionError m (Run Float) := do
  let learner ← ofExcept (lesson.start?.mapError .params)
  (complete console verbose lesson learner : m _)

/-! ## Reporting -/

/-- The line about one of several runs. -/
def runLine (run : Run Float) : String :=
  "seed " ++ Text.padLeft 4 (toString run.lesson.params.seed) ++ " " ++
    match run.solution? with
    | some learned => learned.text
    | none => "no accepted move"

/-- What is logged about several runs, of which one is chosen. -/
def choiceRecords (runs : List (Run Float)) (best : Run Float) : List (Level × String) :=
  if 1 < runs.length then
    runs.map (fun run => (.info, runLine run)) ++
      [(.info, s!"reporting seed {best.lesson.params.seed}")]
  else []

/-- The plot of a comparison. -/
def plot? (c : Comparison Float) : Except SessionError String :=
  match Plot.standard.text? c with
  | some text => .ok text
  | none => .error .outOfBounds

/-- Print a comparison. -/
def report (console : Console m) (s : Settings) (c : Comparison Float) :
    ExceptT SessionError m Unit := do
  if s.json then console.print c.document.pretty
  else
    console.print (c.table false)
    if s.plot then
      let text ← ofExcept (plot? c)
      console.print text

/-- The run that is reported: the best one or, if nothing was learned, the first. -/
def reported? (runs : List (Run Float)) : Except SessionError (Run Float) :=
  match (Sweep.best? runs).or runs.head? with
  | some run => .ok run
  | none => .error .outOfBounds

/-- **Learn a lesson once per seed and report the best run.** There is one seed at
least. -/
def sweep (console : Console m) (s : Settings) (lesson : Lesson Float)
    (exact : Optimum Float) :
    ExceptT SessionError m Unit := do
  let sweep ← ofExcept ((Sweep.consecutive? lesson (max s.seeds 1)).mapError .sweep)
  console.log .info s!"sweeping {sweep.seeds.length} seeds in parallel"
  let runs ← sweep.seeds.mapM fun seed =>
    learn console s.verbose (sweep.lesson.withSeed seed)
  let best ← ofExcept (reported? runs)
  (logAll console (choiceRecords runs best) : m _)
  report console s (.ofRun best exact)

/-! ## The whole -/

/-- What the settings ask for, up to the first failure. -/
def attempt (console : Console m) (s : Settings) : ExceptT SessionError m Unit := do
  let lesson ← ofExcept s.lesson?
  let optimization := lesson.program.tableau.optimize .standard
  (logAll console (problemRecords s.verbose lesson.program optimization) : m _)
  let exact ← ofExcept (optimization.optimum?.mapError .solve)
  console.log .info ("simplex optimum " ++ exact.text)
  sweep console s lesson exact

/-- **Do what the settings ask for**, and say how the program exits. -/
def run (console : Console m) (s : Settings) : m Nat := do
  match ← (attempt console s).run with
  | .ok () => pure 0
  | .error e =>
    console.complain e.message
    pure e.exitCode

/-- The name and version of the program. -/
def versionText : String := "qlp 0.1.0"

/-- The options, one on each line. -/
def helpText : String :=
  "\n".intercalate <|
    ["Approximates the optimum of a planar linear program by Q-learning and compares it with the exact one.",
      "", "Usage: qlp [OPTIONS]", "", "Options:"] ++
    (ValueOption.all.map fun o =>
      "  " ++ Text.padRight 22 ("--" ++ o.name ++ " <VALUE>") ++ o.purpose) ++
    (Switch.all.map fun s => "  " ++ Text.padRight 22 ("--" ++ s.name) ++ s.purpose)

/-- **Do what the command line asks for**, and say how the program exits. -/
def execute (console : Console m) (arguments : List String) : m Nat := do
  match Arguments.read arguments with
  | .ok settings => run console settings
  | .error .version => do
    console.print versionText
    pure 0
  | .error .help => do
    console.print helpText
    pure 0
  | .error (.mistake e) => do
    console.complain ("error: " ++ e.message)
    pure 2

end Session

end LatticeLP

import LatticeLP.Learner.Params
import LatticeLP.Learner.Schedule

/-!
# Settings

Everything the command line can say: the parameters of the runs and their number, the
program as text, the schedule, and how the result is to be shown. Options carry a value,
switches do not.
-/

namespace LatticeLP

/-- What is to be done and how it is to be shown. -/
structure Settings where
  /-- The parameters of every run. -/
  params : Params Float
  /-- The number of runs. -/
  seeds : Nat
  /-- The text of the objective, if one is given. -/
  objective : Option String
  /-- The texts of the constraints. Without any, those of the sample program are taken. -/
  constraints : List String
  /-- How the exploration rate depends on the episode. -/
  schedule : Schedule
  /-- Print a document instead of a table and a plot. -/
  json : Bool
  /-- Print a plot below the table. -/
  plot : Bool
  /-- Report every episode. -/
  verbose : Bool

/-- The settings of an empty command line. -/
def Settings.standard : Settings where
  params := .standard
  seeds := 1
  objective := none
  constraints := []
  schedule := .constant
  json := false
  plot := true
  verbose := false

/-- An option of the command line, which has a value. -/
inductive ValueOption where
  /-- The exploration rate. -/
  | epsilon
  /-- The learning rate. -/
  | alpha
  /-- The discount. -/
  | gamma
  /-- The length of a move. -/
  | step
  /-- The number of episodes. -/
  | episodes
  /-- The number of steps in an episode. -/
  | steps
  /-- The number of digits of a key. -/
  | precision
  /-- The seed of the first run. -/
  | seed
  /-- The number of runs. -/
  | seeds
  /-- The objective. -/
  | objective
  /-- A constraint. -/
  | constraint
  deriving Repr, DecidableEq

/-- A switch of the command line, which has none. -/
inductive Switch where
  /-- Let the exploration rate decay. -/
  | anneal
  /-- Print a document. -/
  | json
  /-- Leave the plot out. -/
  | noPlot
  /-- Report every episode. -/
  | verbose
  /-- Show the version and stop. -/
  | version
  /-- Show the options and stop. -/
  | help
  deriving Repr, DecidableEq

namespace ValueOption

/-- All options. -/
def all : List ValueOption :=
  [epsilon, alpha, gamma, step, episodes, steps, precision, seed, seeds,
    objective, constraint]

/-- The name of an option. -/
def name : ValueOption → String
  | epsilon => "epsilon"
  | alpha => "alpha"
  | gamma => "gamma"
  | step => "step"
  | episodes => "episodes"
  | steps => "steps"
  | precision => "precision"
  | seed => "seed"
  | seeds => "seeds"
  | objective => "objective"
  | constraint => "constraint"

/-- What an option is for. -/
def purpose : ValueOption → String
  | epsilon => "exploration rate, from 0 to 1"
  | alpha => "learning rate, above 0 and at most 1"
  | gamma => "discount factor, from 0 and below 1"
  | step => "length of every move"
  | episodes => "episodes per run"
  | steps => "steps per episode"
  | precision => "decimal digits kept in keys"
  | seed => "seed of the first run"
  | seeds => "runs on consecutive seeds, of which the best is reported"
  | objective => "objective a,b of the program"
  | constraint => "constraint a,b,rhs of the program; may be repeated"

/-- The next argument is taken as the value whatever it looks like. Coefficients are
often negative. -/
def takesAnything : ValueOption → Bool
  | objective | constraint => true
  | _ => false

/-- The option may be given more than once. -/
def repeats : ValueOption → Bool
  | constraint => true
  | _ => false

end ValueOption

namespace Switch

/-- All switches. -/
def all : List Switch :=
  [anneal, json, noPlot, verbose, version, help]

/-- The name of a switch. -/
def name : Switch → String
  | anneal => "anneal"
  | json => "json"
  | noPlot => "no-plot"
  | verbose => "verbose"
  | version => "version"
  | help => "help"

/-- The letter that stands for a switch, if there is one. -/
def letter? : Switch → Option Char
  | verbose => some 'v'
  | version => some 'V'
  | help => some 'h'
  | _ => none

/-- What a switch is for. -/
def purpose : Switch → String
  | anneal => "let the exploration rate decay from episode to episode"
  | json => "print a JSON document instead of the table and the plot"
  | noPlot => "leave the plot out"
  | verbose => "report every episode"
  | version => "show the version"
  | help => "show these options"

end Switch

end LatticeLP

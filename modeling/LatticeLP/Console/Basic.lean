/-!
# Consoles

What a session does to the world around it: it writes records to a log, prints text,
complains about errors, and looks at a clock. A **console** offers these four in some
monad. A program runs on the terminal's console; a **transcript** is a console that only
remembers, on which the same session is a pure function.
-/

namespace LatticeLP

/-- How important a record is. -/
inductive Level where
  /-- A detail. -/
  | debug
  /-- A step of the work. -/
  | info
  /-- A reason for doubt. -/
  | warn
  deriving Repr, DecidableEq

/-- The name of a level. -/
def Level.name : Level → String
  | .debug => "DEBUG"
  | .info => "INFO"
  | .warn => "WARN"

/-- A record as it stands in the log. -/
def Level.entry (level : Level) (text : String) : String :=
  "[" ++ level.name ++ "] " ++ text

/-- The means by which a session is seen and heard. -/
structure Console (m : Type → Type) where
  /-- Write a record to the log. -/
  log : Level → String → m Unit
  /-- Print a text and end the line. -/
  print : String → m Unit
  /-- Complain about an error. -/
  complain : String → m Unit
  /-- The nanoseconds since some fixed moment. -/
  clock : m Nat

/-- What a session has said. -/
structure Transcript where
  /-- The records and printed texts, the newest first. -/
  output : List String
  /-- The complaints, the newest first. -/
  errors : List String
  deriving Repr, DecidableEq

namespace Transcript

/-- Nothing has been said. -/
def empty : Transcript := ⟨[], []⟩

/-- Remember an output. -/
def addOutput (t : Transcript) (text : String) : Transcript :=
  { t with output := text :: t.output }

/-- Remember a complaint. -/
def addError (t : Transcript) (text : String) : Transcript :=
  { t with errors := text :: t.errors }

/-- The console that only remembers. Its clock stands still. -/
def console : Console (StateM Transcript) where
  log level text := modify fun t => t.addOutput (level.entry text)
  print text := modify fun t => t.addOutput text
  complain text := modify fun t => t.addError text
  clock := pure 0

/-- Everything on the standard output. -/
def outputText (t : Transcript) : String :=
  "\n".intercalate t.output.reverse

/-- Everything on the standard error output. -/
def errorText (t : Transcript) : String :=
  "\n".intercalate t.errors.reverse

end Transcript

end LatticeLP

import LatticeLP.Console.Session
import Std.Time.DateTime.Timestamp

/-!
# The program

Runs a session on the terminal. Records are stamped with the time of day, and the exit
code is that of the session.
-/

namespace LatticeLP

/-- A number of two digits. -/
def twoDigits (n : Nat) : String :=
  (if n < 10 then "0" else "") ++ toString n

/-- The time of day at a number of seconds after midnight of some day. -/
def timeOfDay (seconds : Nat) : String :=
  let second := seconds % 86400
  twoDigits (second / 3600) ++ ":" ++ twoDigits (second / 60 % 60) ++ ":"
    ++ twoDigits (second % 60)

/-- The console of the terminal. -/
def terminal : Console IO where
  log level text := do
    let now ← Std.Time.Timestamp.now
    IO.println
      (timeOfDay now.toSecondsSinceUnixEpoch.val.toNat ++ " " ++ level.entry text)
  print := IO.println
  complain := IO.eprintln
  clock := IO.monoNanosNow

end LatticeLP

/-- Run a session with the given arguments. -/
def main (arguments : List String) : IO UInt32 := do
  let code ← LatticeLP.Session.execute LatticeLP.terminal arguments
  pure code.toUInt32

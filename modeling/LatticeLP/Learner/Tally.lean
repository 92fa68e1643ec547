import LatticeLP.Decimal.Rounded
import LatticeLP.Text.Columns

/-!
# Tallies

A run counts its episodes, its steps and what became of them. Together with the time it
took this gives one line of text, in columns, that also shows the share of accepted
steps and the steps per second.
-/

namespace LatticeLP

/-- The counters of a run. -/
structure Tally where
  /-- Completed episodes. -/
  episodes : Nat
  /-- Steps, whether accepted or not. -/
  steps : Nat
  /-- Steps whose candidate position was feasible. -/
  accepted : Nat
  /-- Steps whose candidate position was not. -/
  rejected : Nat
  /-- Entries of the table when the last episode ended. -/
  states : Nat
  deriving Repr, DecidableEq

/-- A span of time. -/
structure Span where
  /-- Whole seconds. -/
  seconds : Nat
  /-- Nanoseconds beyond them. -/
  nanoseconds : Nat
  deriving Repr, DecidableEq

/-- No time at all. -/
def Span.zero : Span := ⟨0, 0⟩

/-- The number of nanoseconds in a second. -/
def Span.perSecond : Nat := 1000000000

/-- A span from its length in nanoseconds. -/
def Span.ofNanoseconds (n : Nat) : Span :=
  ⟨n / perSecond, n % perSecond⟩

/-- A span in seconds. -/
def Span.inSeconds {K : Type} [Scalar K] (s : Span) : K :=
  (s.seconds : K) + (s.nanoseconds : K) / (perSecond : K)

namespace Tally

/-- Nothing counted yet. -/
def zero : Tally := ⟨0, 0, 0, 0, 0⟩

/-- **The share of steps that were accepted.** A run without steps accepted none. -/
def acceptance {K : Type} [Scalar K] (t : Tally) : K :=
  (t.accepted : K) / (max t.steps 1 : Nat)

/-- Steps per second. A span too short to measure counts as a nanosecond. -/
def throughput {K : Type} [Scalar K] (t : Tally) (elapsed : Span) : K :=
  (t.steps : K) / Scalar.larger elapsed.inSeconds 1e-9

/-- The width of a column. -/
def columnWidth : Nat := 18

/-- **A tally on one line.** -/
def text (t : Tally) (elapsed : Span) : String :=
  String.join <| List.map (Text.padRight columnWidth)
    [s!"episode {t.episodes}", s!"steps {t.steps}",
      "accept " ++ fixedText 1 (100.0 * t.acceptance) ++ "%", s!"states {t.states}",
      "S/sec " ++ fixedText 0 (t.throughput elapsed)]

end Tally

end LatticeLP

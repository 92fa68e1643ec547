import LatticeLP.Json.Datum
import LatticeLP.Learner.Params
import LatticeLP.Lattice.Move
import LatticeLP.Plane.Program

/-!
# Values from JSON texts

A value with named parts is read from an object that names each of them once, in any
order and among others, or from an array of exactly these parts in their order. A linear
form is an array of two numbers and a region an array of constraints. A double is read
from any number in range, an integer only from an integer within the range of its type.
A move is its name, or an object whose only member has that name and no value.
-/

namespace LatticeLP

namespace Datum

/-- The value as a double. -/
def float? : Datum → Option Float
  | number value => value.toFloat?
  | _ => none

/-- The value as an integer between two bounds, both included. -/
def int? (least greatest : Int) : Datum → Option Int
  | number value => value.toInt?.filter fun n => decide (least ≤ n ∧ n ≤ greatest)
  | _ => none

/-- The value as a natural number of 32 bits. -/
def nat32? (d : Datum) : Option Nat :=
  (d.int? 0 0xffffffff).map Int.toNat

/-- The value as a natural number of 64 bits. -/
def nat64? (d : Datum) : Option Nat :=
  (d.int? 0 0xffffffffffffffff).map Int.toNat

/-- The only member of a given name. -/
def member? (members : List (Option String × Datum)) (name : String) : Option Datum :=
  match members.filter fun m => m.1 == some name with
  | [(_, value)] => some value
  | _ => none

/-- **The named parts of a value, in order**, from an object or an array. -/
def parts? (names : List String) : Datum → Option (List Datum)
  | object members =>
    if members.all fun m => m.1.isSome then names.mapM (member? members) else none
  | array items => if items.length = names.length then some items else none
  | _ => none

/-- The items of an array, each of them read. -/
def listOf? {α : Type} (read : Datum → Option α) : Datum → Option (List α)
  | array items => items.mapM read
  | _ => none

end Datum

/-- A linear form from an array of its coefficients. -/
def LinearForm.ofDatum? (d : Datum) : Option (LinearForm Float) := do
  match ← d.listOf? Datum.float? with
  | [a, b] => some ⟨a, b⟩
  | _ => none

/-- A point from its coordinates. -/
def Point.ofDatum? (d : Datum) : Option (Point Float) := do
  match ← d.parts? ["x", "y"] with
  | [x, y] => pure ⟨← x.float?, ← y.float?⟩
  | _ => none

/-- A constraint from its coefficients and its bound. -/
def Constraint.ofDatum? (d : Datum) : Option (Constraint Float) := do
  match ← d.parts? ["coefficients", "bound"] with
  | [form, bound] => pure ⟨← LinearForm.ofDatum? form, ← bound.float?⟩
  | _ => none

/-- A region from an array of constraints. -/
def Region.ofDatum? (d : Datum) : Option (Region Float) :=
  (d.listOf? Constraint.ofDatum?).map Region.mk

/-- A program from its objective and its region. -/
def Program.ofDatum? (d : Datum) : Option (Program Float) := do
  match ← d.parts? ["objective", "region"] with
  | [objective, region] =>
    pure ⟨← LinearForm.ofDatum? objective, ← Region.ofDatum? region⟩
  | _ => none

/-- A key from its integers and its precision. -/
def Key.ofDatum? (d : Datum) : Option Key := do
  match ← d.parts? ["x", "y", "precision"] with
  | [x, y, precision] =>
    pure ⟨← x.int? Key.least Key.greatest, ← y.int? Key.least Key.greatest,
      ← precision.nat32?⟩
  | _ => none

/-- Parameters from all eight of them. -/
def Params.ofDatum? (d : Datum) : Option (Params Float) := do
  match ← d.parts? ["epsilon", "alpha", "gamma", "step", "episodes", "steps", "precision",
    "seed"] with
  | [epsilon, alpha, gamma, step, episodes, steps, precision, seed] =>
    pure { epsilon := ← epsilon.float?, alpha := ← alpha.float?, gamma := ← gamma.float?,
           step := ← step.float?, episodes := ← episodes.nat64?, steps := ← steps.nat64?,
           precision := ← precision.nat32?, seed := (← seed.nat64?).toUInt64 }
  | _ => none

/-- A move from its name. -/
def Move.ofDatum? : Datum → Option Move
  | .string (some name) => Move.ofName? name
  | .object [(some name, .null)] => Move.ofName? name
  | _ => none

end LatticeLP

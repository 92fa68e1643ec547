import LatticeLP.Lattice.Key
import LatticeLP.Learner.Table
import LatticeLP.Plane.Program

/-!
# What was learned

The answer of a run is the best entry of its table, read as a point: the key says where,
the estimate how good the learner takes the place to be, and the objective how good it
is.
-/

namespace LatticeLP

/-- A key and its estimate, with the point the key stands for and the objective there. -/
structure Learned (K : Type) where
  /-- The key. -/
  key : Key
  /-- The point the key stands for. -/
  point : Point K
  /-- The estimate in the table. -/
  estimate : K
  /-- The objective at the point. -/
  objective : K
  deriving Repr, BEq, DecidableEq

namespace Learned

variable {K : Type} [Scalar K]

/-- A table entry, read for a program. -/
def ofEntry (program : Program K) (key : Key) (estimate : K) : Learned K where
  key := key
  point := key.point
  estimate := estimate
  objective := program.value key.point

/-- **The best entry of a table**, if it has any. -/
def ofTable? (program : Program K) (table : Table K) : Option (Learned K) :=
  table.best?.map fun (key, estimate) => ofEntry program key estimate

/-- What was learned, on one line. -/
def text (l : Learned Float) : String :=
  l.key.text ++ " Q=" ++ fixedText 4 l.estimate ++ " f=" ++ fixedText 4 l.objective

end Learned

end LatticeLP

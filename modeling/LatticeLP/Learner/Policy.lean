import LatticeLP.Lattice.Move
import LatticeLP.Learner.RandomStream
import LatticeLP.Learner.Table

/-!
# Choosing moves

At every step the learner either **explores**, taking a random move, or **exploits**,
taking the move into the position whose key has the highest estimate, the first such
move on ties. One probability is drawn per choice and compared with the exploration
rate; exploring draws an index as well.

What is drawn is a `Decision`. It depends on the random stream, the rate and the number
of moves, and on nothing that has been learned; only carrying out a decision to exploit
looks at the table.
-/

namespace LatticeLP

/-- What the random stream decides about a step. -/
inductive Decision where
  /-- Take the move at this position of the list. -/
  | explore (index : Nat)
  /-- Take the move that looks best. -/
  | exploit
  deriving Repr, DecidableEq

variable {K : Type} [Scalar K]

/-- **Decide between exploring and exploiting** a list of `count` moves. -/
@[specialize] def RandomStream.decision (r : RandomStream) (epsilon : K) (count : Nat) :
    Decision × RandomStream :=
  let (u, r) := r.probability (K := K)
  if u < epsilon then
    let (index, r) := r.below count
    (.explore index, r)
  else (.exploit, r)

/-- How moves are turned into keys. -/
structure Policy (K : Type) where
  /-- The number of decimal digits that keys keep. -/
  precision : Nat
  /-- The length of a move. -/
  step : K
  deriving Repr, BEq, DecidableEq

namespace Policy

/-- The key of the position into which a move leads. -/
@[specialize] def successor (π : Policy K) (p : Point K) (m : Move) : Key :=
  Key.ofPoint π.precision (m.apply p π.step)

/-- **The exploiting choice**: the move into the highest valued position, the first
among equals. The list of moves must not be empty. -/
@[specialize] def greedy (π : Policy K) (t : Table K) (p : Point K) (moves : List
    Move) : Move :=
  moves.getD (t.argmax (moves.map (π.successor p))) .right

/-- Carry out a decision. -/
@[specialize] def carryOut (π : Policy K) (t : Table K) (p : Point K)
    (moves : List Move) :
    Decision → Move
  | .explore index => moves.getD index .right
  | .exploit => π.greedy t p moves

/-- **Choose a move.** -/
@[specialize] def select (π : Policy K) (r : RandomStream) (t : Table K) (p : Point K)
    (epsilon : K) (moves : List Move) : Move × RandomStream :=
  let (decision, r) := r.decision epsilon moves.length
  (π.carryOut t p moves decision, r)

end Policy

end LatticeLP

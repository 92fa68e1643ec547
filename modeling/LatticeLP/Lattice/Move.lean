import LatticeLP.Plane.Point

/-!
# Moves

A walk proceeds by **moves** of one step along an axis. Their order – right, left, up,
down – breaks ties between moves that look equally good.
-/

namespace LatticeLP

/-- A step along an axis. -/
inductive Move where
  /-- Towards greater first coordinates. -/
  | right
  /-- Towards smaller first coordinates. -/
  | left
  /-- Towards greater second coordinates. -/
  | up
  /-- Towards smaller second coordinates. -/
  | down
  deriving Repr, DecidableEq, Ord

namespace Move

/-- All moves, in order. -/
def all : List Move :=
  [right, left, up, down]

theorem mem_all (m : Move) : m ∈ all := by
  cases m <;> decide

/-- The name of a move. -/
def name : Move → String
  | right => "Right"
  | left => "Left"
  | up => "Up"
  | down => "Down"

/-- The arrow that stands for a move. -/
def arrow : Move → String
  | right => "→"
  | left => "←"
  | up => "↑"
  | down => "↓"

/-- The move with a given name. -/
def ofName? (text : String) : Option Move :=
  all.find? fun m => m.name == text

theorem ofName?_name (m : Move) : ofName? m.name = some m := by
  cases m <;> decide

variable {K : Type} [Scalar K]

/-- By how much a move of a given step length changes a point. -/
@[specialize] def displacement (m : Move) (step : K) : Point K :=
  match m with
  | right => ⟨step, 0⟩
  | left => ⟨-step, 0⟩
  | up => ⟨0, step⟩
  | down => ⟨0, -step⟩

/-- **Where a move leads.** -/
@[specialize] def apply (m : Move) (p : Point K) (step : K) : Point K :=
  p + m.displacement step

@[simp] theorem apply_x (m : Move) (p : Point K) (step : K) :
    (m.apply p step).x = p.x + (m.displacement step).x := rfl

@[simp] theorem apply_y (m : Move) (p : Point K) (step : K) :
    (m.apply p step).y = p.y + (m.displacement step).y := rfl

end Move

end LatticeLP

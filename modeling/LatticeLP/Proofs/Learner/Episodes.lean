import Mathlib.Data.List.Chain
import LatticeLP.Proofs.Learner.History

/-!
# Episodes as walks

The trajectory of a run is one list, and nothing in it marks where an episode ends. Read
together with the episode in which each position was taken, it falls into **walks**, one
per episode, in the order of the episodes (`Walks.trajectory_eq`). A walk starts at the
origin, and each of its positions is one move away from the one before it, however many
refused moves lie between the two (`Walks.chain`). From the end of one walk to the
beginning of the next there is no move: the learner is put back to the origin.

What connects the walks with the machine is where a learner stands while an episode has
steps left, which is at the end of its walk; at all other times the position does not
matter, since the next episode starts afresh. Nothing here depends on the arithmetic.
-/

namespace LatticeLP

namespace Lesson

variable {K : Type} [Scalar K] {lesson : Lesson K} {l l' : Learner K}
  {o : Option (Step K)} {w : Nat → List (Point K)}

/-- One of the moves leads from one point to another. -/
def MovesTo (lesson : Lesson K) (p q : Point K) : Prop :=
  ∃ move ∈ Move.all, q = move.apply p lesson.params.step

/-- A step tries a position that a move leads to. -/
theorem movesTo_candidate (lesson : Lesson K) (l : Learner K) :
    lesson.MovesTo l.position (lesson.candidate l) :=
  ⟨(lesson.choice l).1, Move.mem_all _, rfl⟩

/-- **The walk of an episode**: the positions that several transitions take in it, in
order. -/
def walk (lesson : Lesson K) (l : Learner K) (transitions episode : Nat) :
    List (Point K) :=
  (List.range transitions).filterMap fun k =>
    if (lesson.advances k l).episode = episode then
      taken? (lesson.advance (lesson.advances k l)).1
    else none

/-- One more transition adds to the walk of the episode it is made in. -/
theorem walk_succ (lesson : Lesson K) (l : Learner K) (n : Nat) :
    lesson.walk l (n + 1)
      = Function.update (lesson.walk l n) (lesson.advances n l).episode
          (lesson.walk l n (lesson.advances n l).episode
            ++ (taken? (lesson.advance (lesson.advances n l)).1).toList) := by
  funext e
  rw [walk, List.range_succ, List.filterMap_append, filterMap_singleton, ← walk,
    Function.update_apply]
  by_cases h : e = (lesson.advances n l).episode
  · rw [if_pos h, if_pos h.symm, h]
  · rw [if_neg h, if_neg (Ne.symm h), Option.toList_none, List.append_nil]

/-! ## Walks along a run -/

/-- **A learner and the walks of its episodes.** -/
structure Walks (lesson : Lesson K) (w : Nat →
    List (Point K)) (l : Learner K) : Prop where
  /-- A walk proceeds by moves, from the origin on. -/
  chain : ∀ e, (Point.origin :: w e).IsChain lesson.MovesTo
  /-- The trajectory consists of the walks of all episodes up to the current one. -/
  trajectory_eq : l.trajectory = (List.range (l.episode + 1)).flatMap w
  /-- Later episodes have no walk yet. -/
  eq_nil : ∀ e, l.episode < e → w e = []
  /-- Neither has an episode that is not open. -/
  eq_nil_of_start : l.phase = .episodeStart → w l.episode = []
  /-- In an open episode a learner is at the end of its walk. -/
  position_eq : l.phase = .stepInProgress →
    (Point.origin :: w l.episode).getLast? = some l.position

theorem walks_start (lesson : Lesson K) : lesson.Walks (fun _ => []) lesson.start where
  chain _ := List.isChain_singleton _
  trajectory_eq := rfl
  eq_nil _ _ := rfl
  eq_nil_of_start _ := rfl
  position_eq h := nomatch h

omit [Scalar K] in
/-- A transition that takes no position leaves the walks as they are. -/
theorem update_append_nil (w : Nat → List (Point K)) (e : Nat) :
    Function.update w e (w e ++ (none : Option (Point K)).toList) = w := by
  rw [Option.toList_none, List.append_nil, Function.update_eq_self]

omit [Scalar K] in
/-- Adding to the walk of the last of several episodes adds to their walks together. -/
theorem flatMap_update_append (w : Nat → List (Point K)) (e : Nat) (ps : List (Point K)) :
    (List.range (e + 1)).flatMap (Function.update w e (w e ++ ps))
      = (List.range (e + 1)).flatMap w ++ ps := by
  have hbefore : (List.range e).flatMap (Function.update w e (w e ++ ps))
      = (List.range e).flatMap w :=
    List.flatMap_congr fun i hi => Function.update_of_ne (List.mem_range.mp hi).ne _ _
  rw [List.range_succ, List.flatMap_append, List.flatMap_append, hbefore,
    List.append_assoc]
  simp

/-- **Every transition keeps the episodes walks**, to the last of which it may add a
position. -/
theorem Transition.walks (ht : lesson.Transition l o l') (h : lesson.Walks w l) :
    lesson.Walks (Function.update w l.episode (w l.episode ++ (taken? o).toList)) l' := by
  obtain ⟨hchain, htrajectory, hnil, hstart, hposition⟩ := h
  cases ht with
  | opening hphase =>
    rw [show taken? (none : Option (Step K)) = none from rfl, update_append_nil]
    refine ⟨hchain, htrajectory, hnil, fun h => (nomatch h), fun _ => ?_⟩
    show (Point.origin :: w l.episode).getLast? = some .origin
    rw [hstart hphase, List.getLast?_singleton]
  | accepted hphase _ =>
    rw [show (taken? (some (.accepted (lesson.candidate l)))).toList
      = [lesson.candidate l] from rfl]
    refine ⟨fun e => ?_, ?_, fun e he => ?_, fun h => ?_, fun _ => ?_⟩
    · by_cases he : e = l.episode
      · -- the walk so far ends where the move starts
        subst he
        rw [Function.update_self, ← List.cons_append]
        refine (hchain _).append (List.isChain_singleton _) fun p hp q hq => ?_
        rw [hposition hphase, Option.mem_some_iff] at hp
        rw [List.head?_singleton, Option.mem_some_iff] at hq
        exact hp ▸ hq ▸ lesson.movesTo_candidate l
      · rw [Function.update_of_ne he]
        exact hchain e
    · show (_ :: l.trail).reverse = _
      rw [List.reverse_cons, ← Learner.trajectory, htrajectory, flatMap_update_append]
    · rw [Function.update_of_ne (show e ≠ l.episode from Nat.ne_of_gt he)]
      exact hnil e he
    · exact absurd h (by unfold phaseAfter; split <;> simp)
    · show (Point.origin :: Function.update w l.episode _ l.episode).getLast? = _
      rw [Function.update_self, ← List.cons_append, List.getLast?_concat]
  | rejected hphase _ =>
    rw [show taken? (some (.rejected (lesson.candidate l))) = none from rfl,
      update_append_nil]
    exact ⟨hchain, htrajectory, hnil,
      fun h => absurd h (by unfold phaseAfter; split <;> simp),
      fun _ => hposition hphase⟩
  | closing _ =>
    rw [show taken? (none : Option (Step K)) = none from rfl, update_append_nil]
    have hnext := hnil (l.episode + 1) (Nat.lt_succ_self _)
    refine ⟨hchain, ?_, fun e he => hnil e (Nat.lt_of_succ_lt he), fun _ => hnext,
      fun h => ?_⟩
    · show l.trajectory = (List.range (l.episode + 1 + 1)).flatMap w
      rw [List.range_succ, List.flatMap_append, List.flatMap_singleton, hnext,
        List.append_nil]
      exact htrajectory
    · dsimp only at h
      split at h <;> cases h
  | resting _ =>
    rw [show taken? (none : Option (Step K)) = none from rfl, update_append_nil]
    exact ⟨hchain, htrajectory, hnil, hstart, hposition⟩

/-- **The episodes of a run are walks.** -/
theorem walks_advances (lesson : Lesson K) (n : Nat) :
    lesson.Walks (lesson.walk lesson.start n) (lesson.advances n lesson.start) := by
  induction n with
  | zero => exact walks_start lesson
  | succ n ih =>
    rw [advances_succ, walk_succ]
    exact (lesson.transition_advance _).walks ih

end Lesson

end LatticeLP

import LatticeLP.Proofs.Lattice.Rounding
import LatticeLP.Proofs.Learner.Table
import LatticeLP.Proofs.Learner.Transitions

/-!
# Where a run has been

Two accounts of the positions of a run. The first holds in any arithmetic (`Traced`):
the trajectory consists of feasible points, a learner stands at the origin or on its
trajectory, and the keys of its table are keys of such points – an estimate is set where
a move started, never where one was refused.

The second is exact (`Gridded`). A walk that starts at the origin and moves by a fixed
step stays on the lattice of that step, and in the non-negative quadrant it is no
further along the two axes together than it has made steps. The check of parameters
bounds just that distance, so every position of a run is in the range in which keys
round to the nearest (`OnLattice.inRange`).
-/

namespace LatticeLP

/-! ## Visited points -/

section Visited

variable {K : Type} [Scalar K] {lesson : Lesson K} {l l' : Learner K}
  {o : Option (Step K)} {p : Point K}

namespace Learner

/-- The point was visited: it is the origin, or it is on the trajectory. -/
def Visited (l : Learner K) (p : Point K) : Prop :=
  p = .origin ∨ p ∈ l.trajectory

omit [Scalar K] in
theorem mem_trajectory : p ∈ l.trajectory ↔ p ∈ l.trail :=
  List.mem_reverse

/-- What was visited remains so when the trail grows. -/
theorem Visited.of_cons {q : Point K} (hp : l.Visited p) (h : l'.trail = q :: l.trail) :
    l'.Visited p :=
  hp.imp_right fun hp =>
    mem_trajectory.mpr (h ▸ List.mem_cons_of_mem q (mem_trajectory.mp hp))

end Learner

namespace Lesson

/-- **A learner is where its trajectory says**, and its table knows no other place. -/
structure Traced (lesson : Lesson K) (l : Learner K) : Prop where
  /-- The position was visited. -/
  position : l.Visited l.position
  /-- The trajectory is feasible. -/
  feasible : ∀ p ∈ l.trajectory, lesson.program.Feasible p
  /-- The keys of the table are those of visited points. -/
  keys : ∀ k, l.table.contains k = true → ∃ p, l.Visited p ∧ k = lesson.keyOf p

theorem traced_start (lesson : Lesson K) : lesson.Traced lesson.start where
  position := .inl rfl
  feasible _ hp := nomatch hp
  keys k hk := by
    rw [show lesson.start.table = ∅ from rfl, Table.contains_empty] at hk
    cases hk

/-- **Every transition keeps the account of visited points.** -/
theorem Transition.traced (ht : lesson.Transition l o l') (h : lesson.Traced l) :
    lesson.Traced l' := by
  obtain ⟨hposition, hfeasible, hkeys⟩ := h
  cases ht with
  | opening _ => exact ⟨.inl rfl, hfeasible, hkeys⟩
  | accepted _ hc =>
    refine ⟨.inr (Learner.mem_trajectory.mpr List.mem_cons_self), fun p hp => ?_,
      fun k hk => ?_⟩
    · rcases List.mem_cons.mp (Learner.mem_trajectory.mp hp) with rfl | hp
      · exact hc
      · exact hfeasible p (Learner.mem_trajectory.mpr hp)
    -- the key that may be new is that of the position the move started from
    · simp only [learn, Table.contains_set, Bool.or_eq_true, beq_iff_eq] at hk
      rcases hk with rfl | hk
      · exact ⟨l.position, hposition.of_cons rfl, rfl⟩
      · obtain ⟨p, hp, rfl⟩ := hkeys k hk
        exact ⟨p, hp.of_cons rfl, rfl⟩
  | rejected _ _ | closing _ | resting _ => exact ⟨hposition, hfeasible, hkeys⟩

theorem traced_advances (lesson : Lesson K) (n : Nat) :
    lesson.Traced (lesson.advances n lesson.start) :=
  advances_invariant (fun _ _ _ h ht => ht.traced h) (traced_start lesson) n

/-- **Visited points are feasible** if the origin is. -/
theorem Traced.feasible_of_visited (h : lesson.Traced l)
    (horigin : lesson.program.Feasible .origin) (hp : l.Visited p) :
    lesson.program.Feasible p :=
  hp.elim (fun hp => hp ▸ horigin) (h.feasible p)

end Lesson

end Visited

/-! ## Lattice points -/

/-- **A lattice point of the quadrant**, no further than `m` steps from the origin. -/
def OnLattice (step : Rat) (m : Nat) (p : Point Rat) : Prop :=
  ∃ i j : Nat, i + j ≤ m ∧ p = ⟨i * step, j * step⟩

namespace OnLattice

variable {step : Rat} {m n : Nat} {p : Point Rat}

theorem origin (step : Rat) (m : Nat) : OnLattice step m .origin :=
  ⟨0, 0, Nat.zero_le m, by rw [Nat.cast_zero, zero_mul]; rfl⟩

theorem mono (hmn : m ≤ n) (h : OnLattice step m p) : OnLattice step n p := by
  obtain ⟨i, j, hij, hp⟩ := h
  exact ⟨i, j, hij.trans hmn, hp⟩

/-- The next multiple of a step. -/
theorem add_step (step : Rat) (i : Nat) :
    (i * step + step : Rat) = (i + 1 : Nat) * step := by
  push_cast
  ring

/-- A multiple of a positive step that stays non-negative when a step is taken off is
not zero. -/
theorem exists_pred (hstep : 0 < step) {i : Nat} (h : 0 ≤ i * step + -step) :
    ∃ i' : Nat, i = i' + 1 ∧ (i * step + -step : Rat) = i' * step := by
  cases i with
  | zero =>
    rw [Nat.cast_zero, zero_mul, zero_add] at h
    linarith
  | succ i => exact ⟨i, rfl, by push_cast; ring⟩

/-- **A move within the quadrant leads to a lattice point**, one step further at most. -/
theorem apply (hstep : 0 < step) (h : OnLattice step m p) (move : Move)
    (hx : 0 ≤ (move.apply p step).x) (hy : 0 ≤ (move.apply p step).y) :
    OnLattice step (m + 1) (move.apply p step) := by
  obtain ⟨i, j, hij, rfl⟩ := h
  cases move with
  | right => exact ⟨i + 1, j, by omega, congrArg₂ Point.mk (add_step step i) (add_zero _)⟩
  | up => exact ⟨i, j + 1, by omega, congrArg₂ Point.mk (add_zero _) (add_step step j)⟩
  | left =>
    obtain ⟨i', rfl, hi'⟩ := exists_pred hstep hx
    exact ⟨i', j, by omega, congrArg₂ Point.mk hi' (add_zero _)⟩
  | down =>
    obtain ⟨j', rfl, hj'⟩ := exists_pred hstep hy
    exact ⟨i, j', by omega, congrArg₂ Point.mk (add_zero _) hj'⟩

/-- A lattice point is no further along an axis than its number of steps. -/
theorem abs_le (hstep : 0 ≤ step) (h : OnLattice step m p) :
    |p.x| ≤ m * step ∧ |p.y| ≤ m * step := by
  have hcoordinate : ∀ i : Nat, i ≤ m → |(i : Rat) * step| ≤ m * step := fun i hi => by
    rw [abs_of_nonneg (by positivity)]
    gcongr
  obtain ⟨i, j, hij, rfl⟩ := h
  exact ⟨hcoordinate i (by omega), hcoordinate j (by omega)⟩

/-- **Lattice points within reach have keys in range.** -/
theorem inRange (hstep : 0 < step) (h : OnLattice step m p) {unit : Rat}
    (hunit : 0 < unit) (hreach : step * m * unit ≤ 0x20000000000000) :
    Key.InRange (p.x * unit) ∧ Key.InRange (p.y * unit) := by
  obtain ⟨hx, hy⟩ := h.abs_le hstep.le
  rw [mul_comm step] at hreach
  exact ⟨.of_abs_le hunit hx hreach, .of_abs_le hunit hy hreach⟩

/-- Where the step is a whole number of units, so are the coordinates. -/
theorem exists_int (h : OnLattice step m p) {unit : Rat}
    (hint : ∃ n : Int, step * unit = n) :
    (∃ n : Int, p.x * unit = n) ∧ ∃ n : Int, p.y * unit = n := by
  have hcoordinate : ∀ i : Nat, ∃ n : Int, (i : Rat) * step * unit = n := fun i => by
    obtain ⟨n, hn⟩ := hint
    exact ⟨i * n, by rw [mul_assoc, hn, Int.cast_mul, Int.cast_natCast]⟩
  obtain ⟨i, j, _, rfl⟩ := h
  exact ⟨hcoordinate i, hcoordinate j⟩

end OnLattice

namespace Lesson

variable {lesson : Lesson Rat} {l l' : Learner Rat} {o : Option (Step Rat)}
  {p : Point Rat}

/-- **A run on the lattice**: after so many steps of an episode a learner is no further
than that from the origin, and never further than an episode lasts. -/
structure Gridded (lesson : Lesson Rat) (l : Learner Rat) : Prop where
  /-- The steps of the episode bound the distance of the position. -/
  position : OnLattice lesson.params.step l.step l.position
  /-- There are no more steps than an episode has. -/
  step_le : l.step ≤ lesson.params.steps
  /-- While the episode has steps left, there are fewer. -/
  step_lt : l.phase = .stepInProgress → l.step < lesson.params.steps
  /-- The trajectory is on the lattice. -/
  trajectory : ∀ p ∈ l.trajectory, OnLattice lesson.params.step lesson.params.steps p

theorem gridded_start (lesson : Lesson Rat) : lesson.Gridded lesson.start where
  position := .origin _ _
  step_le := Nat.zero_le _
  step_lt h := nomatch h
  trajectory _ hp := nomatch hp

/-- A phase of steps after a step means that not all of them are taken. -/
theorem lt_of_phaseAfter {K : Type} {lesson : Lesson K} {n : Nat}
    (h : lesson.phaseAfter n = .stepInProgress) : n < lesson.params.steps := by
  refine Nat.lt_of_not_le fun hle => ?_
  rw [phaseAfter, if_pos hle] at h
  cases h

/-- **Every transition keeps a run on the lattice.** -/
theorem Transition.gridded (valid : lesson.params.Valid) (ht : lesson.Transition l o l')
    (h : lesson.Gridded l) : lesson.Gridded l' := by
  obtain ⟨hposition, hle, hlt, htrajectory⟩ := h
  cases ht with
  | opening _ => exact ⟨.origin _ _, Nat.zero_le _, fun _ => valid.steps_pos, htrajectory⟩
  | accepted hphase hc =>
    have hcandidate : OnLattice lesson.params.step (l.step + 1) (lesson.candidate l) :=
      hposition.apply valid.step_pos _ hc.2.1 hc.2.2.1
    refine ⟨hcandidate, hlt hphase, lt_of_phaseAfter, fun p hp => ?_⟩
    rcases List.mem_cons.mp (Learner.mem_trajectory.mp hp) with rfl | hp
    · exact hcandidate.mono (hlt hphase)
    · exact htrajectory p (Learner.mem_trajectory.mpr hp)
  | rejected hphase _ =>
    -- the position stays while the bound on its distance grows
    exact ⟨hposition.mono (Nat.le_succ _), hlt hphase, lt_of_phaseAfter, htrajectory⟩
  | closing _ =>
    refine ⟨hposition, hle, fun hphase => ?_, htrajectory⟩
    dsimp only at hphase
    split at hphase <;> cases hphase
  | resting _ => exact ⟨hposition, hle, hlt, htrajectory⟩

theorem gridded_advances (valid : lesson.params.Valid) (n : Nat) :
    lesson.Gridded (lesson.advances n lesson.start) :=
  advances_invariant (fun _ _ _ h ht => ht.gridded valid h) (gridded_start lesson) n

/-- Visited points are on the lattice. -/
theorem Gridded.onLattice_of_visited (h : lesson.Gridded l) (hp : l.Visited p) :
    OnLattice lesson.params.step lesson.params.steps p :=
  hp.elim (fun hp => hp ▸ .origin _ _) (h.trajectory p)

end Lesson

end LatticeLP

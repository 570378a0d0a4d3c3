import BoxSearch.Proofs.Ensemble.Step

/-!
# Going back to a checkpoint

A checkpoint goes back only into a solver of the same shape, which is a matter of
families and of numbers of members at every depth.  No operation of a run changes the
shape of a solver, so the checkpoint from before a step goes back into whatever the
step has made of it.

* `restore_of_shape` — into a solver of its shape a checkpoint goes back, and then is
  the checkpoint of that solver;
* `shape_step` — a step keeps the shape, whether it succeeds or fails;
* `checkpoints_restoreAll_afters` — however a map has dispatched the moves of the
  members, all of them can be taken back.
-/

namespace BoxSearch

/-- The families of a solver and of its members. -/
inductive Shape where
  /-- differential evolution -/
  | evolution
  /-- a compass search -/
  | compass
  /-- an ensemble -/
  | ensemble (members : List Shape)

namespace Checkpoint

variable {α : Type}

mutual

/-- The shape of the solver that a checkpoint was taken of. -/
def shape : Checkpoint α → Shape
  | .evolution .. => .evolution
  | .compass .. => .compass
  | .ensemble _ _ cs => .ensemble (shapes cs)

/-- The shapes of several checkpoints. -/
def shapes : List (Checkpoint α) → List Shape
  | [] => []
  | c :: cs => shape c :: shapes cs

end

end Checkpoint

namespace Solver

variable {α : Type} [Scalar α]
variable {f : Frame α} {build : Builder α} {members : List (Solver α)} {o : Objective α}
variable {moves : List (Dispatch.Move (Solver α) α)} {calls i : Nat}

mutual

/-- The shape of a solver. -/
def shape : Solver α → Shape
  | .evolution _ => .evolution
  | .compass _ => .compass
  | .ensemble _ _ ms => .ensemble (shapes ms)

/-- The shapes of several solvers. -/
def shapes : List (Solver α) → List Shape
  | [] => []
  | m :: ms => shape m :: shapes ms

end

theorem shapes_eq_map : ∀ ms : List (Solver α), shapes ms = ms.map shape
  | [] => rfl
  | m :: ms => congrArg (shape m :: ·) (shapes_eq_map ms)

theorem checkpoints_eq_map : ∀ ms : List (Solver α), checkpoints ms = ms.map checkpoint
  | [] => rfl
  | m :: ms => congrArg (checkpoint m :: ·) (checkpoints_eq_map ms)

theorem length_of_shapes : ∀ (ms : List (Solver α)) (cs : List (Checkpoint α)),
    shapes ms = Checkpoint.shapes cs → cs.length = ms.length
  | [], [], _ => rfl
  | [], _ :: _, h => by cases h
  | _ :: _, [], h => by cases h
  | _ :: ms, _ :: cs, h => congrArg Nat.succ (length_of_shapes ms cs (List.cons.inj h).2)

mutual

theorem shape_checkpoint : ∀ s : Solver α, s.checkpoint.shape = s.shape
  | .evolution _ => rfl
  | .compass _ => rfl
  | .ensemble _ _ ms => congrArg Shape.ensemble (shapes_checkpoints ms)

theorem shapes_checkpoints : ∀ ms : List (Solver α), Checkpoint.shapes (checkpoints ms) = shapes ms
  | [] => rfl
  | m :: ms => by
      rw [checkpoints, Checkpoint.shapes, shapes, shape_checkpoint m, shapes_checkpoints ms]

end

/-! ## Restoring -/

mutual

/-- **A checkpoint goes back into a solver of its shape**, and is the checkpoint of it
then. -/
theorem restore_of_shape : ∀ (s : Solver α) (c : Checkpoint α), s.shape = c.shape →
    (s.restore c).1 = .ok () ∧ (s.restore c).2.checkpoint = c
  | .evolution _, .evolution .., _ => ⟨rfl, rfl⟩
  | .compass _, .compass .., _ => ⟨rfl, rfl⟩
  | .ensemble f build ms, .ensemble state stopped cs, h => by
      have hs : shapes ms = Checkpoint.shapes cs := Shape.ensemble.inj h
      obtain ⟨hr, hc⟩ := restoreAll_of_shapes ms cs hs
      have hl : ¬ cs.length ≠ ms.length := fun hne => hne (length_of_shapes ms cs hs)
      rcases hx : restoreAll ms cs with ⟨r, ns⟩
      rw [hx] at hr hc
      cases hr
      simp only [restore, if_neg hl, hx]
      exact ⟨trivial, congrArg (Checkpoint.ensemble state stopped) hc⟩
  | .evolution _, .compass .., h => by cases h
  | .evolution _, .ensemble .., h => by cases h
  | .compass _, .evolution .., h => by cases h
  | .compass _, .ensemble .., h => by cases h
  | .ensemble .., .evolution .., h => by cases h
  | .ensemble .., .compass .., h => by cases h

theorem restoreAll_of_shapes : ∀ (ms : List (Solver α)) (cs : List (Checkpoint α)),
    shapes ms = Checkpoint.shapes cs →
      (restoreAll ms cs).1 = .ok () ∧ checkpoints (restoreAll ms cs).2 = cs
  | [], [], _ => ⟨rfl, rfl⟩
  | [], _ :: _, h => by cases h
  | _ :: _, [], h => by cases h
  | m :: ms, c :: cs, h => by
      obtain ⟨hm, hms⟩ := List.cons.inj h
      obtain ⟨hr, hc⟩ := restore_of_shape m c hm
      obtain ⟨hr', hc'⟩ := restoreAll_of_shapes ms cs hms
      rcases hx : restore m c with ⟨r, n⟩
      rw [hx] at hr hc
      cases hr
      simp only [restoreAll, hx]
      exact ⟨hr', by rw [checkpoints, hc, hc']⟩

end

mutual

/-- Restoring keeps the shape, also where it is refused. -/
theorem shape_restore : ∀ (s : Solver α) (c : Checkpoint α), (s.restore c).2.shape = s.shape
  | .evolution _, .evolution .. => rfl
  | .compass _, .compass .. => rfl
  | .ensemble f build ms, .ensemble state stopped cs => by
      have hs := shapes_restoreAll ms cs
      simp only [restore]
      by_cases hl : cs.length ≠ ms.length
      · rw [if_pos hl]
      · rw [if_neg hl]
        rcases hx : restoreAll ms cs with ⟨e | u, ns⟩
        · rw [hx] at hs
          exact congrArg Shape.ensemble hs
        · rw [hx] at hs
          exact congrArg Shape.ensemble hs
  | .evolution _, .compass .. => rfl
  | .evolution _, .ensemble .. => rfl
  | .compass _, .evolution .. => rfl
  | .compass _, .ensemble .. => rfl
  | .ensemble .., .evolution .. => rfl
  | .ensemble .., .compass .. => rfl

theorem shapes_restoreAll : ∀ (ms : List (Solver α)) (cs : List (Checkpoint α)),
    shapes (restoreAll ms cs).2 = shapes ms
  | [], _ => by cases ‹List (Checkpoint α)› <;> rfl
  | _ :: _, [] => rfl
  | m :: ms, c :: cs => by
      have hm := shape_restore m c
      have hms := shapes_restoreAll ms cs
      rcases hx : restore m c with ⟨e | u, n⟩
      · rw [hx] at hm
        simp only [restoreAll, hx, shapes]
        rw [hm]
      · rw [hx] at hm
        simp only [restoreAll, hx, shapes]
        rw [hm, hms]

end

/-- Members and checkpoints of the same shapes are put together one by one. -/
theorem getElem?_restoreAll : ∀ (ms : List (Solver α)) (cs : List (Checkpoint α)),
    shapes ms = Checkpoint.shapes cs → ∀ (i : Nat) m c, ms[i]? = some m → cs[i]? = some c →
      (restoreAll ms cs).2[i]? = some (m.restore c).2
  | [], _, _, i, _, _, hm, _ => by simp at hm
  | _ :: _, [], h, _, _, _, _, _ => by cases h
  | m :: ms, c :: cs, h, i, n, d, hn, hd => by
      obtain ⟨hm, hms⟩ := List.cons.inj h
      have hr := (restore_of_shape m c hm).1
      have ih := getElem?_restoreAll ms cs hms
      rcases hx : restore m c with ⟨r, m'⟩
      rw [hx] at hr
      cases hr
      simp only [restoreAll, hx]
      cases i with
      | zero =>
          cases hn
          cases hd
          rw [hx]
          rfl
      | succ i => exact ih i n d hn hd

@[simp]
theorem length_restoreAll (ms : List (Solver α)) (cs : List (Checkpoint α)) :
    (restoreAll ms cs).2.length = ms.length := by
  have h := congrArg List.length (shapes_restoreAll ms cs)
  rwa [shapes_eq_map, shapes_eq_map, List.length_map, List.length_map] at h

/-! ## Steps keep the shape -/

/-- Moves that keep the shapes of the members. -/
def KeepShape (members : List (Solver α)) (moves : List (Dispatch.Move (Solver α) α)) : Prop :=
  ∀ (i : Nat) m move, members[i]? = some m → moves[i]? = some move →
    ∀ calls, (move calls).1.after.shape = m.shape

theorem shapes_afters (f : Frame α) (calls : Nat) (h : KeepShape members moves) :
    shapes (Dispatch.afters members (replies f members moves calls)) = shapes members := by
  rw [shapes_eq_map, shapes_eq_map]
  exact map_afters f calls h

/-- **What the members have done can be taken back**, in whatever order and however
incompletely they were dispatched. -/
theorem checkpoints_restoreAll_afters (h : KeepShape members moves) :
    checkpoints (restoreAll (Dispatch.afters members (replies f members moves calls))
      (checkpoints members)).2 = checkpoints members :=
  (restoreAll_of_shapes _ _ ((shapes_afters f calls h).trans (shapes_checkpoints members).symm)).2

theorem shape_stepEnsemble (h : KeepShape members moves) :
    (stepEnsemble f build members moves o calls).1.after.shape = .ensemble (shapes members) := by
  rcases hc : f.checkReady o with e | u
  · rw [stepEnsemble_of_refused hc]
    rfl
  · cases going : f.state.isTerminated with
    | true => rw [stepEnsemble_of_ended hc going]; rfl
    | false =>
        rcases hv : Dispatch.verdicts f.map.name members.length (replies f members moves calls) with
          e | flags
        · rw [(stepEnsemble_of_verdicts_error build hc going hv).2, shape, shapes_restoreAll,
            shapes_afters f calls h]
        · rw [(stepEnsemble_of_verdicts_ok build hc going hv).2, shape, shapes_afters f calls h]

mutual

/-- **A step keeps the shape of a solver.** -/
theorem shape_step (o : Objective α) : ∀ (s : Solver α) (calls : Nat),
    (s.step o calls).1.after.shape = s.shape
  | .evolution _, _ => rfl
  | .compass _, _ => rfl
  | .ensemble f build ms, calls => by
      rw [step]
      exact shape_stepEnsemble (keepShape_moves o ms)

theorem keepShape_moves (o : Objective α) : ∀ ms : List (Solver α), KeepShape ms (Solver.moves o ms)
  | [], i, _, _, hm, _, _ => by simp at hm
  | m :: _, 0, _, _, hm, hmove, calls => by
      cases hm
      cases hmove
      exact shape_step o m calls
  | _ :: ms, i + 1, n, move, hm, hmove, calls => keepShape_moves o ms i n move hm hmove calls

end

end Solver
end BoxSearch

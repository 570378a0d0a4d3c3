import BoxSearch.Proofs.Evolution.Rescaling
import BoxSearch.Proofs.Solver.Slices

/-!
# Runs side by side

Two runs can be compared without a word about the way they are made: if the turns of both
solvers are the same, and generations with the same results leave the solvers as comparable
as they were, then this is so after any number of generations, and after a call of `solve`.
`Bisimulation` lists what a relation between solvers has to keep; `Bisimulation.stepped` and
`Bisimulation.solveFrom` are the inductions, made here once for every relation.
-/

namespace BoxSearch
namespace Solver

variable {α : Type} [Scalar α] {R : Solver α → Solver α → Prop} {s t : Solver α}
variable {o o' : Objective α} {left calls calls' : Nat} {past past' : List (Event α)}

/-- When nobody asks for it, a step is followed by no request. -/
theorem heed_none (reply : Reply (Solver α) α Bool) :
    heed (fun _ => false) reply = reply.after := by
  rw [heed, List.any_eq_false.2 fun _ _ => Bool.false_ne_true, if_neg Bool.false_ne_true]

/-- Related solvers on two objectives do the same things, and stay related. -/
structure Bisimulation (R : Solver α → Solver α → Prop) (o o' : Objective α) : Prop where
  turn : ∀ {s t}, R s t → ∀ left, t.turn left = s.turn left
  takeCancel : ∀ {s t}, R s t → R s.takeCancel t.takeCancel
  step : ∀ {s t}, R s t → ∀ calls calls',
    Reply.Tallies R (s.step o calls).1 (t.step o' calls').1

namespace Bisimulation

theorem stepped (b : Bisimulation R o o') (h : R s t) (n calls calls' : Nat) :
    (Solver.stepped o' n t calls').1 = (Solver.stepped o n s calls).1 ∧
      R (Solver.stepped o n s calls).2.1 (Solver.stepped o' n t calls').2.1 := by
  induction n generalizing s t calls calls' with
  | zero => exact ⟨rfl, h⟩
  | succ n ih =>
      obtain ⟨hr, ha⟩ := b.step h calls calls'
      obtain ⟨rest, last⟩ := ih ha (s.step o calls).2 (t.step o' calls').2
      rw [stepped_succ, stepped_succ, hr, rest]
      exact ⟨rfl, last⟩

/-- Calls of `solve` that make no step. -/
theorem solveFrom_idle (b : Bisimulation R o o') (h : R s t)
    (idle : s.turn left = .cancelled ∨ s.turn left = .ended ∨ s.turn left = .spent) :
    Reply.Tallies R (Solver.solveFrom (fun _ => false) o left calls past s).1
      (Solver.solveFrom (fun _ => false) o' left calls' past' t).1 := by
  have same := b.turn h left
  rcases idle with ht | ht
  · rw [solveFrom_cancelled ht, solveFrom_cancelled (same.trans ht)]
    exact ⟨rfl, b.takeCancel h⟩
  · rw [solveFrom_done ht, solveFrom_done (same ▸ ht)]
    exact ⟨rfl, h⟩

/-- **Related solvers stay related under `solve`**, and the two calls have the same result. -/
theorem solveFrom (b : Bisimulation R o o') (h : R s t) (left calls calls' : Nat)
    (past past' : List (Event α)) :
    Reply.Tallies R (Solver.solveFrom (fun _ => false) o left calls past s).1
      (Solver.solveFrom (fun _ => false) o' left calls' past' t).1 := by
  induction left generalizing s t calls calls' past past' with
  | zero =>
      rcases turn_cases s 0 with ⟨_, hk, _⟩ | idle
      · cases hk
      · exact b.solveFrom_idle h idle
  | succ left ih =>
      rcases turn_cases s (left + 1) with ⟨_, _, ht⟩ | idle
      · rw [solveFrom_due ht, solveFrom_due ((b.turn h _).trans ht)]
        obtain ⟨hr, ha⟩ := b.step h calls calls'
        unfold solveOn
        rw [hr, heed_none, heed_none]
        cases (s.step o calls).1.result with
        | error e => exact ⟨rfl, ha⟩
        | ok ended => cases ended with
            | true => exact ⟨rfl, ha⟩
            | false => exact ih ha _ _ _ _
      · exact b.solveFrom_idle h idle

end Bisimulation
end Solver
end BoxSearch

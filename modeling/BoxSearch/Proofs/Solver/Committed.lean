import BoxSearch.Proofs.Solver.Calls
import BoxSearch.Proofs.Solver.Records

/-!
# Runs and the generations they commit

A run is looked at here from the side of its generations.  `Ran` is where a user gets with a
solver that was made ready, and it keeps the reply to every generation on the way, in order:
those that succeeded are the ones that were committed.  Everything else that a user can do in
between is one of the calls of `Handled`, which run no generation.

`Ran.solve` says that a call of `solve` is nothing new: it is a number of generations with calls
of `Handled` between them.  So a statement about a run is proved by looking at one generation
and at one call that is none.
-/

namespace BoxSearch

/-- The evaluations that an operation committed: what it recorded, if it succeeded. -/
def Reply.committed {σ α ρ : Type} (r : Reply σ α ρ) : List (Record α) :=
  match r.result with
  | .ok _ => r.events.filterMap Event.evaluated?
  | .error _ => []

namespace Reply

variable {σ α ρ : Type} {r : Reply σ α ρ}

theorem committed_of_ok {x : ρ} (h : r.result = .ok x) :
    r.committed = r.events.filterMap Event.evaluated? := by
  unfold committed
  rw [h]

theorem committed_of_error {e : SolverError} (h : r.result = .error e) : r.committed = [] := by
  unfold committed
  rw [h]

end Reply

namespace Solver

variable {α : Type} [Scalar α] {allowed : Constraints α → Prop}

/-- A call that runs no generation leads from a solver to another one; constraints that are set
are of a certain kind. -/
inductive Handled (allowed : Constraints α → Prop) (s : Solver α) : Solver α → Prop
  /-- a request to stop was made, or taken -/
  | token (x : CancelToken) : Handled allowed s (s.setToken x)
  /-- it was recorded that a request was seen -/
  | marked : Handled allowed s s.markCancelled
  /-- the drawn population was replaced -/
  | populated {t : Solver α} {p : Population α} (h : s.setInitialPopulation p = .ok t) :
      Handled allowed s t
  /-- the start point was replaced -/
  | guessed {t : Solver α} {x : Point α} (h : s.setInitialGuess x = .ok t) : Handled allowed s t
  /-- a strategy was installed -/
  | strategy (x : Strategy α) : Handled allowed s (s.setStrategy x).1
  /-- a criterion was installed -/
  | watch (x : Watch) : Handled allowed s (s.setWatch x)
  /-- a map was installed -/
  | map (x : EvaluationMap α) : Handled allowed s (s.setMap x).1
  /-- the hard caps were set -/
  | limits (x : Limits) : Handled allowed s (s.setLimits x)
  /-- the way of drawing was set -/
  | init (x : Init) : Handled allowed s (s.setInit x)
  /-- repair and penalty were set -/
  | constraints (x : Constraints α) (hx : allowed x) : Handled allowed s (s.setConstraints x)

/-- The calls that a user makes on a solver lead to another one, and these are the replies to
the generations on the way, each of them on an objective of its own.  A generation that meets a
fault has no reply. -/
inductive Ran (allowed : Constraints α → Prop) (s : Solver α) :
    List (Reply (Solver α) α Bool) → Solver α → Prop
  /-- no call was made -/
  | start : Ran allowed s [] s
  /-- the last call ran a generation -/
  | stepped {rs : List (Reply (Solver α) α Bool)} {t : Solver α} (o : Objective α) (calls : Nat)
      (before : Ran allowed s rs t)
      (returned : ∀ c, (t.step o calls).1.result ≠ .error (.fault c)) :
      Ran allowed s (rs ++ [(t.step o calls).1]) (t.step o calls).1.after
  /-- the last call ran none -/
  | handled {rs : List (Reply (Solver α) α Bool)} {t u : Solver α} (before : Ran allowed s rs t)
      (h : t.Handled allowed u) : Ran allowed s rs u

namespace Ran

variable {s t : Solver α} {o : Objective α} {asks : Event α → Bool} {calls left : Nat}
variable {rs : List (Reply (Solver α) α Bool)} {past : List (Event α)}

theorem heed (run : Ran allowed s rs (t.step o calls).1.after) :
    Ran allowed s rs (heed asks (t.step o calls).1) := by
  unfold Solver.heed
  split
  · exact run.handled (.token _)
  · exact run

/-- A call that has no generation to run adds none, and records nothing. -/
theorem returning (run : Ran allowed s rs t) (ht : t.turn left ≠ .due) (asks : Event α → Bool)
    (o : Objective α) (calls : Nat) (past : List (Event α)) :
    Ran allowed s rs (Solver.solveFrom asks o left calls past t).1.after ∧
      (Solver.solveFrom asks o left calls past t).1.events.filterMap Event.evaluated? =
        past.reverse.filterMap Event.evaluated? := by
  rcases turn_cases t left with ⟨_, _, due⟩ | cancelled | done
  · exact absurd due ht
  · rw [solveFrom_cancelled cancelled]
    exact ⟨(run.handled (.token _)).handled .marked, by simp [Reply.done, Event.evaluated?]⟩
  · rw [solveFrom_done done]
    exact ⟨run, rfl⟩

/-- **A call of `solve` is a number of generations**: it goes on with the run, and what it
records is what these record. -/
theorem solveFrom (run : Ran allowed s rs t)
    (returned : ∀ c, (Solver.solveFrom asks o left calls past t).1.result ≠ .error (.fault c)) :
    ∃ later, Ran allowed s (rs ++ later) (Solver.solveFrom asks o left calls past t).1.after ∧
      (Solver.solveFrom asks o left calls past t).1.events.filterMap Event.evaluated? =
        past.reverse.filterMap Event.evaluated? ++
          (later.flatMap (·.events)).filterMap Event.evaluated? := by
  induction left generalizing calls past t rs with
  | zero =>
      have none_left : t.turn 0 ≠ .due := fun due => (turn_eq_due_iff.1 due).2.2 rfl
      obtain ⟨after, recorded⟩ := run.returning none_left asks o calls past
      exact ⟨[], by simpa using after, by simpa using recorded⟩
  | succ left ih =>
      by_cases due : t.turn (left + 1) = .due
      · rw [solveFrom_due due] at returned ⊢
        unfold solveOn at returned ⊢
        cases hr : (t.step o calls).1.result with
        | error e =>
            simp only [hr] at returned ⊢
            have next := run.stepped o calls fun c h => by
              cases hr.symm.trans h
              exact returned c rfl
            exact ⟨_, next.heed, by simp⟩
        | ok b =>
            simp only [hr] at returned ⊢
            have next := run.stepped o calls fun c h => by cases hr.symm.trans h
            cases b with
            | true => exact ⟨_, next.heed, by simp [Reply.done]⟩
            | false =>
                obtain ⟨later, after, recorded⟩ := ih next.heed returned
                exact ⟨(t.step o calls).1 :: later, by simpa using after, by simpa using recorded⟩
      · obtain ⟨after, recorded⟩ := run.returning due asks o calls past
        exact ⟨[], by simpa using after, by simpa using recorded⟩

theorem solve (run : Ran allowed s rs t) (budget : Option Nat)
    (returned : ∀ c, (t.solve asks o calls budget).1.result ≠ .error (.fault c)) :
    ∃ later, Ran allowed s (rs ++ later) (t.solve asks o calls budget).1.after ∧
      (t.solve asks o calls budget).1.events.filterMap Event.evaluated? =
        (later.flatMap (·.events)).filterMap Event.evaluated? :=
  run.solveFrom returned

end Ran

/-! ## Generations in a row -/

/-- A generation after a number of others, all of them on one objective, with the evaluations
made. -/
def attempt (s : Solver α) (o : Objective α) : Nat → Reply (Solver α) α Bool × Nat
  | 0 => s.step o 0
  | n + 1 => (attempt s o n).1.after.step o (attempt s o n).2

theorem Ran.attempts (s : Solver α) (o : Objective α) (n : Nat)
    (returned : ∀ i ≤ n, ∀ c, (s.attempt o i).1.result ≠ .error (.fault c)) :
    Ran allowed s ((List.range (n + 1)).map fun i => (s.attempt o i).1)
      (s.attempt o n).1.after := by
  induction n with
  | zero => exact Ran.stepped o 0 .start (returned 0 (le_refl 0))
  | succ n ih =>
      have before := ih fun i hi => returned i (hi.trans (Nat.le_succ n))
      rw [List.range_succ, List.map_append]
      exact before.stepped o _ (returned (n + 1) (le_refl _))

end Solver

end BoxSearch

import BoxSearch.Proofs.Evolution.Selection
import BoxSearch.Proofs.Solver.Slices
import BoxSearch.Proofs.Solver.Steady

/-!
# A solver that runs alone

A solver is independent when it has no members and its map is steady: on a pure objective
its steps are then its own affair, whatever else is evaluated in between.  `alone` is where
a number of them leads.

* `alone_succ` — the next step may be made at any count of evaluations;
* `StopsAt` — the generation at which a call of `solve` ends, and `StopsAt.steps` what that
  says of the steps: all of them succeed, and it is the first one after which the run has
  ended;
* `Able` — the next step alone succeeds, or none is due;
* `step_best` — a generation that succeeds makes the best energy no worse, once the first
  energies are there.
-/

namespace BoxSearch

/-! ## The best energy in a generation -/

namespace Evolution

variable {α : Type} [Scalar α] {s : Evolution α} {o : Objective α} {calls : Nat} {b : Bool}

theorem concluded_best (s : Evolution α) (reason : Option String) :
    (s.concluded reason).evaluated = s.evaluated ∧
      (s.concluded reason).state.bestEnergy = s.state.bestEnergy := by
  unfold concluded
  split <;> exact ⟨rfl, rfl⟩

theorem step_best (going : s.state.isTerminated = false) (h : (s.step o calls).1.result = .ok b) :
    (s.step o calls).1.after.evaluated = true ∧
      (s.evaluated = true →
        Energy.NoWorse (s.step o calls).1.after.state.bestEnergy s.state.bestEnergy) := by
  obtain ⟨_, m, _, ⟨ended, _⟩ | ⟨_, hf, t, points, g, es, n, rfl, _, _, hs, ha⟩⟩ := step_ok h
  · rw [going] at ended
    cases ended
  · obtain ⟨reason, watch, _, _, hc⟩ := checkStop_ok hs
    obtain ⟨kept, best⟩ := concluded_best { bred _ points g es with watch } reason
    rw [ha, hc, kept, best]
    refine ⟨evaluated_evaluateFirst hf, fun evaluated => ?_⟩
    rw [evaluateFirst_of_evaluated evaluated]
    exact Energy.noWorse_improve s.state.bestEnergy _

end Evolution

namespace Compass

variable {α : Type} [Scalar α] {s : Compass α} {o : Objective α} {calls : Nat} {b : Bool}

theorem concluded_best (s : Compass α) (reason : Option String) :
    (s.concluded reason).evaluated = s.evaluated ∧
      (s.concluded reason).state.bestEnergy = s.state.bestEnergy := by
  unfold concluded
  split <;> exact ⟨rfl, rfl⟩

theorem move_best (s : Compass α) (points : List (Point α)) (es : List Float) :
    (s.move points es).evaluated = s.evaluated ∧
      (s.move points es).state.bestEnergy = Energy.improve s.state.bestEnergy es := by
  unfold move Energy.improve
  by_cases h : (Energy.argmin es).2 < s.state.bestEnergy
  · simp only [if_pos h, and_self]
  · simp only [if_neg h, and_self]

theorem step_best (going : s.state.isTerminated = false) (h : (s.step o calls).1.result = .ok b) :
    (s.step o calls).1.after.evaluated = true ∧
      (s.evaluated = true →
        Energy.NoWorse (s.step o calls).1.after.state.bestEnergy s.state.bestEnergy) := by
  obtain ⟨_, ⟨ended, _⟩ | ⟨_, hf, t, points, es, n, rfl, _, _, hs, ha⟩⟩ := step_ok h
  · rw [going] at ended
    cases ended
  · obtain ⟨reason, watch, _, _, hc⟩ := checkStop_ok hs
    obtain ⟨kept, best⟩ := concluded_best { move (running _) points es with watch } reason
    obtain ⟨kept', best'⟩ := move_best (running (s.evaluateStart o calls).1.after) points es
    rw [ha, hc, kept, best]
    refine ⟨kept'.trans (evaluated_evaluateStart hf), fun evaluated => ?_⟩
    rw [evaluateStart_of_evaluated evaluated] at best' ⊢
    exact best' ▸ Energy.noWorse_improve s.state.bestEnergy es

end Compass

namespace Solver

variable {α : Type} [Scalar α]
variable {s m : Solver α} {o : Objective α} {calls n k g : Nat} {b : Bool}

/-- A solver without members whose first energies are there. -/
def Begun : Solver α → Prop
  | .evolution s => s.evaluated = true
  | .compass s => s.evaluated = true
  | .ensemble .. => False

/-- **A generation that succeeds makes the best energy no worse**, once the first energies
are there, and after it they are. -/
theorem step_best (lone : s.Lone) (going : s.state.isTerminated = false)
    (h : (s.step o calls).1.result = .ok b) :
    (s.step o calls).1.after.Begun ∧
      (s.Begun →
        Energy.NoWorse (s.step o calls).1.after.state.bestEnergy s.state.bestEnergy) := by
  cases s with
  | evolution s => exact Evolution.step_best going h
  | compass s => exact Compass.step_best going h
  | ensemble f build members => cases lone

/-! ## Steps that are one's own affair -/

/-- A solver without members whose map is steady. -/
structure Independent (s : Solver α) : Prop where
  /-- it has no members -/
  lone : s.Lone
  /-- its map does not count evaluations -/
  steady : ∀ map, s.map? = some map → map.Steady

theorem Independent.step (h : s.Independent) (o : Objective α) (calls : Nat) :
    (s.step o calls).1.after.Independent where
  lone := lone_step h.lone o calls
  steady := by
    rw [map?_step h.lone]
    exact h.steady

/-- The solver after a number of steps that it makes alone. -/
def alone (o : Objective α) (s : Solver α) (n : Nat) : Solver α := (stepped o n s 0).2.1

theorem alone_zero (o : Objective α) (s : Solver α) : alone o s 0 = s := rfl

theorem alone_succ_eq (o : Objective α) (s : Solver α) (n : Nat) :
    alone o s (n + 1) = ((alone o s n).step o (stepped o n s 0).2.2).1.after := by
  unfold alone
  rw [stepped_add]
  rfl

theorem Independent.alone (h : s.Independent) (o : Objective α) (n : Nat) :
    (alone o s n).Independent := by
  induction n with
  | zero => exact h
  | succ n ih =>
      rw [alone_succ_eq]
      exact ih.step o _

/-- **The next step of an independent solver**, at whatever count of evaluations. -/
theorem alone_succ (h : s.Independent) (pure : o.Pure) (n calls : Nat) :
    alone o s (n + 1) = ((alone o s n).step o calls).1.after := by
  have same := h.alone o n
  rw [alone_succ_eq, step_steady same.lone same.steady pure _ calls]

/-- A run that has ended stays where it is. -/
theorem alone_of_isTerminated (ended : (alone o s n).state.isTerminated = true) (hle : n ≤ k) :
    alone o s k = alone o s n := by
  obtain ⟨j, rfl⟩ := Nat.exists_eq_add_of_le hle
  unfold alone at ended ⊢
  rw [stepped_add]
  exact stepped_of_isTerminated j ended

/-! ## Where a run alone ends -/

/-- Solved alone, a solver ends its run at a generation. -/
structure StopsAt (o : Objective α) (s : Solver α) (g : Nat) : Prop where
  /-- the call succeeds -/
  success : (s.solve (fun _ => false) o 0 none).1.result = .ok ()
  /-- the run has ended after it -/
  ended : (s.solve (fun _ => false) o 0 none).1.after.state.isTerminated = true
  /-- at that generation -/
  generation : (s.solve (fun _ => false) o 0 none).1.after.state.generation = g

/-- A solver whose run is yet to begin. -/
structure Unbegun (s : Solver α) : Prop where
  /-- no generation was counted -/
  start : s.state.generation = 0
  /-- the run has not ended -/
  going : s.state.isTerminated = false

/-- Steps that succeed count at most one generation each. -/
theorem generation_stepped_le (success : outcome (stepped o n s calls).1 = .ok ()) :
    (stepped o n s calls).2.1.state.generation ≤ s.state.generation + n := by
  induction n generalizing s calls with
  | zero => exact Nat.le_refl _
  | succ n ih =>
      rw [stepped_succ] at success ⊢
      cases hr : (s.step o calls).1.result with
      | error e =>
          rw [hr] at success
          cases success
      | ok b =>
          rw [hr] at success
          have rest := ih success
          have counted : (s.step o calls).1.after.state.generation ≤ s.state.generation + 1 := by
            cases going : s.state.isTerminated with
            | true =>
                rw [(step_of_isTerminated o calls going).1]
                exact Nat.le_succ _
            | false => exact (step_going going hr).1.le
          exact rest.trans (by omega)

/-- What the end of a run says of its steps. -/
theorem StopsAt.steps (h : StopsAt o s g) (unbegun : s.Unbegun) :
    outcome (stepped o g s 0).1 = .ok () ∧ (alone o s g).state.isTerminated = true ∧
      (alone o s g).state.generation = g := by
  obtain ⟨n, _, walked⟩ : ∃ n, n ≤ unlimited ∧
      Walked o s 0 n (s.solve (fun _ => false) o 0 none).1.result
        (s.solve (fun _ => false) o 0 none).1.after (s.solve (fun _ => false) o 0 none).2 :=
    solveFrom_walked unlimited 0 [] (Paused.refl s)
  have success : outcome (stepped o n s 0).1 = .ok () := walked.result.symm.trans h.success
  have counted := walked.generation success
  have same : n = g := by
    have hg := walked.paused.generation.symm.trans h.generation
    rw [counted, unbegun.start, Nat.zero_add] at hg
    exact hg
  subst same
  refine ⟨success, walked.paused.isTerminated.symm.trans h.ended, ?_⟩
  rw [alone, counted, unbegun.start, Nat.zero_add]

/-- Before the run ends its steps succeed, and it goes on. -/
theorem StopsAt.before (h : StopsAt o s g) (unbegun : s.Unbegun) (independent : s.Independent)
    (pure : o.Pure) (hlt : k < g) (calls : Nat) :
    (alone o s k).state.isTerminated = false ∧
      ∃ b, ((alone o s k).step o calls).1.result = .ok b := by
  obtain ⟨success, _, counted⟩ := h.steps unbegun
  have same := independent.alone o k
  obtain ⟨j, rfl⟩ : ∃ j, g = k + (j + 1) := ⟨g - k - 1, by omega⟩
  rw [stepped_add, outcome_append] at success
  cases hk : outcome (stepped o k s 0).1 with
  | error e =>
      rw [hk] at success
      cases success
  | ok u =>
      rw [hk, stepped_succ] at success
      constructor
      · by_contra ended
        have stays := alone_of_isTerminated (o := o) (k := k + (j + 1)) (by simpa using ended)
          (Nat.le_add_right k _)
        have bound : (alone o s k).state.generation ≤ s.state.generation + k :=
          generation_stepped_le hk
        rw [unbegun.start] at bound
        rw [stays] at counted
        omega
      · rw [step_steady same.lone same.steady pure calls (stepped o k s 0).2.2]
        cases hr : ((alone o s k).step o (stepped o k s 0).2.2).1.result with
        | ok b => exact ⟨b, rfl⟩
        | error e =>
            unfold alone at hr
            simp only [hr, Except.bind, outcome] at success
            cases success

theorem StopsAt.isTerminated_iff (h : StopsAt o s g) (unbegun : s.Unbegun)
    (independent : s.Independent) (pure : o.Pure) (k : Nat) :
    (alone o s k).state.isTerminated = true ↔ g ≤ k := by
  constructor
  · intro ended
    by_contra hlt
    rw [(h.before unbegun independent pure (Nat.lt_of_not_le hlt) 0).1] at ended
    cases ended
  · intro hle
    have ended := (h.steps unbegun).2.1
    rwa [alone_of_isTerminated ended hle]

/-- The run of a member has ended, or the next of the steps that it makes alone succeeds. -/
def Able (o : Objective α) (s : Solver α) (k : Nat) : Prop :=
  (alone o s k).state.isTerminated = true ∨ ∃ b, ((alone o s k).step o 0).1.result = .ok b

/-- A solver that ends its run alone is able to make every step up to there. -/
theorem StopsAt.able (h : StopsAt o s g) (unbegun : s.Unbegun) (independent : s.Independent)
    (pure : o.Pure) (k : Nat) : Able o s k := by
  rcases Nat.lt_or_ge k g with hlt | hle
  · exact Or.inr (h.before unbegun independent pure hlt 0).2
  · exact Or.inl ((h.isTerminated_iff unbegun independent pure k).2 hle)

/-- The run stays at its end. -/
theorem StopsAt.alone_eq (h : StopsAt o s g) (unbegun : s.Unbegun) (k : Nat) :
    alone o s k = alone o s (min k g) := by
  rcases Nat.le_total k g with hle | hle
  · rw [Nat.min_eq_left hle]
  · rw [Nat.min_eq_right hle, alone_of_isTerminated (h.steps unbegun).2.1 hle]

end Solver
end BoxSearch

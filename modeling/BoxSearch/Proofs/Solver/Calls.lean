import BoxSearch.Solver.Solve

/-!
# What a user does with a solver

A solver that was made ready is stepped, solved with and asked to stop, in any order,
and before its first generation it is handed start values.  `Reached` is where such
calls lead, with the events that happened on the way; steps and calls of `solve` may
fail as well as succeed.

A call of `solve` is a number of steps with requests between them.  The three ways in
which it goes on from one turn are `solveFrom_due`, `solveFrom_cancelled` and
`solveFrom_done`, and nothing else here opens it.  `paces` are the steps that it makes,
each by what it is made on.

`Paced` lists what a property of the solver, the events and the steps has to survive, call
by call; `Invariant` does so for properties that do not look at the steps, and
`Invariant.of_reached` draws the conclusion once for every run.
-/

namespace BoxSearch
namespace Solver

variable {α : Type} [Scalar α]
variable {usable : Objective α → Prop} {P : List (Event α) → Solver α → Prop}
variable {s t : Solver α} {o : Objective α} {asks : Event α → Bool}
variable {events past : List (Event α)} {left calls : Nat}

/-! ## The turns of a call of `solve` -/

theorem turn_eq_due_iff :
    s.turn left = .due ↔ s.state.isTerminated = false ∧ s.token.cancelled = false ∧ left ≠ 0 := by
  unfold turn
  cases s.state.isTerminated <;> cases s.token.cancelled <;> by_cases h : left = 0 <;> simp [h]

theorem turn_eq_cancelled_iff :
    s.turn left = .cancelled ↔ s.state.isTerminated = false ∧ s.token.cancelled = true := by
  unfold turn
  cases s.state.isTerminated <;> cases s.token.cancelled <;> by_cases h : left = 0 <;> simp [h]

theorem solveFrom_cancelled (h : s.turn left = .cancelled) :
    solveFrom asks o left calls past s =
      (.done s.takeCancel () (.log (.cancelled s.state.generation) :: past).reverse, calls) := by
  cases left <;> simp only [solveFrom, h]

theorem solveFrom_done (h : s.turn left = .ended ∨ s.turn left = .spent) :
    solveFrom asks o left calls past s = (.done s () past.reverse, calls) := by
  unfold solveFrom
  rcases h with h | h <;> rw [h]

/-- What is left of a call of `solve` after one of its steps. -/
def solveOn (asks : Event α → Bool) (o : Objective α) (left : Nat) (past : List (Event α))
    (reply : Reply (Solver α) α Bool) (calls : Nat) : Reply (Solver α) α Unit × Nat :=
  match reply.result with
  | .error e => (⟨.error e, heed asks reply, (reply.events.reverse ++ past).reverse⟩, calls)
  | .ok true => (.done (heed asks reply) () (reply.events.reverse ++ past).reverse, calls)
  | .ok false => solveFrom asks o left calls (reply.events.reverse ++ past) (heed asks reply)

theorem solveFrom_due (h : s.turn (left + 1) = .due) :
    solveFrom asks o (left + 1) calls past s =
      solveOn asks o left past (s.step o calls).1 (s.step o calls).2 := by
  unfold solveOn
  cases hr : (s.step o calls).1.result with
  | error e => simp only [solveFrom, h, hr]
  | ok b => cases b <;> simp only [solveFrom, h, hr]

/-- A turn that is no step is one of three. -/
theorem turn_cases (s : Solver α) (left : Nat) :
    (∃ k, left = k + 1 ∧ s.turn left = .due) ∨ s.turn left = .cancelled ∨
      s.turn left = .ended ∨ s.turn left = .spent := by
  cases h : s.turn left with
  | due =>
      have hne := (turn_eq_due_iff.1 h).2.2
      exact Or.inl ⟨left - 1, by omega, rfl⟩
  | cancelled => exact Or.inr (Or.inl rfl)
  | ended => exact Or.inr (Or.inr (Or.inl rfl))
  | spent => exact Or.inr (Or.inr (Or.inr rfl))

/-! ## Runs -/

/-- The calls that a user makes on a solver lead to another one, and these are the
events on the way; objectives are of a certain kind. -/
inductive Reached (usable : Objective α → Prop) (s : Solver α) :
    List (Event α) → Solver α → Prop
  /-- no call was made -/
  | start : Reached usable s [] s
  /-- the last call was a step -/
  | stepped {events : List (Event α)} {t : Solver α} {o : Objective α} (calls : Nat)
      (before : Reached usable s events t) (ho : usable o) :
      Reached usable s (events ++ (t.step o calls).1.events) (t.step o calls).1.after
  /-- the last call solved with the solver -/
  | solved {events : List (Event α)} {t : Solver α} {o : Objective α} (asks : Event α → Bool)
      (calls : Nat) (budget : Option Nat) (before : Reached usable s events t) (ho : usable o) :
      Reached usable s (events ++ (t.solve asks o calls budget).1.events)
        (t.solve asks o calls budget).1.after
  /-- the last call asked the run to stop -/
  | cancelled {events : List (Event α)} {t : Solver α} (before : Reached usable s events t) :
      Reached usable s events t.cancel
  /-- the last call recorded that a request was seen -/
  | marked {events : List (Event α)} {t : Solver α} (before : Reached usable s events t) :
      Reached usable s events t.markCancelled
  /-- the last call replaced the drawn population -/
  | populated {events : List (Event α)} {t u : Solver α} {p : Population α}
      (before : Reached usable s events t) (h : t.setInitialPopulation p = .ok u) :
      Reached usable s events u
  /-- the last call replaced the start point -/
  | guessed {events : List (Event α)} {t u : Solver α} {x : Point α}
      (before : Reached usable s events t) (h : t.setInitialGuess x = .ok u) :
      Reached usable s events u

/-! ## Paces -/

/-- A step of a run, by what it is made on. -/
structure Pace (α : Type) [Scalar α] where
  /-- the solver before the step -/
  solver : Solver α
  /-- what is minimised in it -/
  objective : Objective α
  /-- how often that was evaluated before -/
  calls : Nat

/-- The steps that a call of `solve` makes when so many are left: it goes on until one of them fails
or ends the run, or no other is due. -/
def paces (asks : Event α → Bool) (o : Objective α) : Nat → Nat → Solver α → List (Pace α)
  | 0, _, _ => []
  | left + 1, calls, s =>
    if s.turn (left + 1) = .due then
      ⟨s, o, calls⟩ ::
        match (s.step o calls).1.result with
        | .ok false => paces asks o left (s.step o calls).2 (heed asks (s.step o calls).1)
        | _ => []
    else []

theorem paces_of_not_due (h : s.turn left ≠ .due) : paces asks o left calls s = [] := by
  cases left with
  | zero => rfl
  | succ left => rw [paces, if_neg h]

/-- A property of a solver, of the events so far and of the steps that were made survives every
call.  A call of `solve` does nothing but step, exchange the token, mark the run cancelled and
write to the log. -/
structure Paced (usable : Objective α → Prop)
    (P : List (Event α) → List (Pace α) → Solver α → Prop) : Prop where
  step : ∀ {events ps s o} (calls : Nat), usable o → P events ps s →
    P (events ++ (s.step o calls).1.events) (ps ++ [⟨s, o, calls⟩]) (s.step o calls).1.after
  token : ∀ {events ps s} (token : CancelToken), P events ps s → P events ps (s.setToken token)
  marked : ∀ {events ps s}, P events ps s → P events ps s.markCancelled
  log : ∀ {events ps s} (entry : LogEntry), P events ps s → P (events ++ [.log entry]) ps s
  populated : ∀ {events ps s t} {p : Population α}, s.setInitialPopulation p = .ok t →
    P events ps s → P events ps t
  guessed : ∀ {events ps s t} {x : Point α}, s.setInitialGuess x = .ok t →
    P events ps s → P events ps t

namespace Paced

variable {P : List (Event α) → List (Pace α) → Solver α → Prop} {ps : List (Pace α)}

theorem heed (paced : Paced usable P) (ho : usable o) (h : P events ps s) (asks : Event α → Bool)
    (calls : Nat) :
    P (events ++ (s.step o calls).1.events) (ps ++ [⟨s, o, calls⟩])
      (heed asks (s.step o calls).1) := by
  unfold Solver.heed
  split
  · exact paced.token _ (paced.step calls ho h)
  · exact paced.step calls ho h

/-- A turn that is no step. -/
theorem solveFrom_idle (paced : Paced usable P) (h : P (events ++ past.reverse) ps s)
    (ht : s.turn left ≠ .due) :
    P (events ++ (solveFrom asks o left calls past s).1.events)
      (ps ++ paces asks o left calls s) (solveFrom asks o left calls past s).1.after := by
  rw [paces_of_not_due ht, List.append_nil]
  rcases turn_cases s left with ⟨_, _, due⟩ | cancelled | done
  · exact absurd due ht
  · rw [solveFrom_cancelled cancelled]
    simpa [Reply.done, takeCancel] using paced.log _ (paced.marked (paced.token _ h))
  · rw [solveFrom_done done]
    exact h

/-- What survives every step survives a call of `solve`, from any of its turns on. -/
theorem solveFrom (paced : Paced usable P) (ho : usable o) (ps : List (Pace α))
    (h : P (events ++ past.reverse) ps s) :
    P (events ++ (solveFrom asks o left calls past s).1.events)
      (ps ++ paces asks o left calls s) (solveFrom asks o left calls past s).1.after := by
  induction left generalizing calls past ps s with
  | zero => exact paced.solveFrom_idle h (fun due => (turn_eq_due_iff.1 due).2.2 rfl)
  | succ left ih =>
      by_cases ht : s.turn (left + 1) = .due
      · rw [solveFrom_due ht, paces, if_pos ht]
        have next := paced.heed ho h asks calls
        have shape : events ++ ((s.step o calls).1.events.reverse ++ past).reverse =
            events ++ past.reverse ++ (s.step o calls).1.events := by simp
        rw [← shape] at next
        unfold solveOn
        cases (s.step o calls).1.result with
        | error e => exact next
        | ok b => cases b with
            | true => exact next
            | false =>
                rw [List.append_cons]
                exact ih _ next
      · exact paced.solveFrom_idle h ht

end Paced

/-! ## Invariants -/

/-- A property of a solver and the events so far survives every call, whatever steps were
made. -/
structure Invariant (usable : Objective α → Prop) (P : List (Event α) → Solver α → Prop) :
    Prop where
  step : ∀ {events s o} (calls : Nat), usable o → P events s →
    P (events ++ (s.step o calls).1.events) (s.step o calls).1.after
  token : ∀ {events s} (token : CancelToken), P events s → P events (s.setToken token)
  marked : ∀ {events s}, P events s → P events s.markCancelled
  log : ∀ {events s} (entry : LogEntry), P events s → P (events ++ [.log entry]) s
  populated : ∀ {events s t} {p : Population α}, s.setInitialPopulation p = .ok t →
    P events s → P events t
  guessed : ∀ {events s t} {x : Point α}, s.setInitialGuess x = .ok t → P events s → P events t

/-- What survives every call and does not look at the steps is an invariant. -/
theorem Paced.invariant (paced : Paced usable fun events _ s => P events s) :
    Invariant usable P where
  step calls ho h := @Paced.step _ _ _ _ paced _ [] _ _ calls ho h
  token token h := @Paced.token _ _ _ _ paced _ [] _ token h
  marked h := @Paced.marked _ _ _ _ paced _ [] _ h
  log entry h := @Paced.log _ _ _ _ paced _ [] _ entry h
  populated hp h := @Paced.populated _ _ _ _ paced _ [] _ _ _ hp h
  guessed hx h := @Paced.guessed _ _ _ _ paced _ [] _ _ _ hx h

namespace Invariant

theorem paced (inv : Invariant usable P) : Paced usable fun events _ s => P events s where
  step calls ho h := inv.step calls ho h
  token token h := inv.token token h
  marked h := inv.marked h
  log entry h := inv.log entry h
  populated hp h := inv.populated hp h
  guessed hx h := inv.guessed hx h

/-- An invariant survives a call of `solve`, from any of its turns on. -/
theorem solveFrom (inv : Invariant usable P) (ho : usable o)
    (h : P (events ++ past.reverse) s) :
    P (events ++ (solveFrom asks o left calls past s).1.events)
      (solveFrom asks o left calls past s).1.after :=
  inv.paced.solveFrom ho [] h

/-- **An invariant holds wherever a user's calls lead.** -/
theorem of_reached (inv : Invariant usable P) (h : P [] s) (run : Reached usable s events t) :
    P events t := by
  induction run with
  | start => exact h
  | stepped calls _ ho ih => exact inv.step calls ho ih
  | solved asks calls budget _ ho ih => exact inv.solveFrom ho (by simpa using ih)
  | cancelled _ ih => exact inv.token _ ih
  | marked _ ih => exact inv.marked ih
  | populated _ h ih => exact inv.populated h ih
  | guessed _ h ih => exact inv.guessed h ih

end Invariant

end Solver
end BoxSearch

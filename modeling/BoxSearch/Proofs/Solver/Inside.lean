import BoxSearch.Proofs.Compass.Inside
import BoxSearch.Proofs.Solver.Slices

/-!
# The box always holds

A solver that searches in a box is handed points by its strategy, by a repair and by its
user, and none of them is asked to respect the box.  `holds_from_first_success` says that
the box holds all the same: from the first generation that succeeds on, every member and the
best point lie in it, as far as `Box.Holds` says.

`Steered` is where the calls of a user lead who hands over populations that are tables.  Its
start values are the only place where it is narrower than `Reached`, since a list of points
of several lengths is no population.
-/

namespace BoxSearch
namespace Solver

/-! ## Runs -/

/-- The calls that a user makes on a solver lead to another one; objectives are of any kind,
and the members of a population have the dimension that it says they have. -/
inductive Steered {α : Type} [Scalar α] (s : Solver α) : Solver α → Prop
  /-- no call was made -/
  | start : Steered s s
  /-- the last call was a step -/
  | stepped {t : Solver α} (o : Objective α) (calls : Nat) (before : Steered s t) :
      Steered s (t.step o calls).1.after
  /-- the last call solved with the solver -/
  | solved {t : Solver α} (asks : Event α → Bool) (o : Objective α) (calls : Nat)
      (budget : Option Nat) (before : Steered s t) : Steered s (t.solve asks o calls budget).1.after
  /-- the last call asked the run to stop -/
  | cancelled {t : Solver α} (before : Steered s t) : Steered s t.cancel
  /-- the last call recorded that a request was seen -/
  | marked {t : Solver α} (before : Steered s t) : Steered s t.markCancelled
  /-- the last call replaced the drawn population -/
  | populated {t u : Solver α} {p : Population α} (lengths : ∀ x ∈ p.rows, x.length = p.width)
      (before : Steered s t) (h : t.setInitialPopulation p = .ok u) : Steered s u
  /-- the last call replaced the start point -/
  | guessed {t u : Solver α} {x : Point α} (before : Steered s t)
      (h : t.setInitialGuess x = .ok u) : Steered s u

variable {b : Box Float} {s t u : Solver Float} {o : Objective Float} {calls : Nat}

/-! ## The invariant -/

/-- A solver without members that is kept in a box. -/
inductive Walled (b : Box Float) : Solver Float → Prop
  | evolution {s : Evolution Float} (h : s.Walled b) : Walled b (.evolution s)
  | compass {s : Compass Float} (h : s.Walled b) : Walled b (.compass s)

/-- Whether the first points of a solver without members were evaluated. -/
def evaluated : Solver Float → Bool
  | .evolution s => s.evaluated
  | .compass s => s.evaluated
  | .ensemble .. => false

/-- A call of `solve` comes to some steps, but for the marks of a request. -/
theorem paused_solve (s : Solver Float) (asks : Event Float → Bool) (o : Objective Float)
    (calls : Nat) (budget : Option Nat) :
    ∃ n, Paused (stepped o n s calls).2.1 (s.solve asks o calls budget).1.after := by
  obtain ⟨n, _, walked⟩ : ∃ n, n ≤ budget.getD unlimited ∧ Walked o s calls n
      (s.solve asks o calls budget).1.result (s.solve asks o calls budget).1.after
      (s.solve asks o calls budget).2 :=
    solveFrom_walked (budget.getD unlimited) calls [] (Paused.refl s)
  exact ⟨n, walked.paused⟩

theorem evaluated_marked (token : CancelToken) (status : Status) :
    (s.marked token status).evaluated = s.evaluated := by
  cases s <;> rfl

theorem evaluated_of_paused (h : Paused s t) : t.evaluated = s.evaluated := by
  obtain ⟨token, status, rfl, _⟩ := h
  exact evaluated_marked token status

namespace Walled

theorem inside (h : s.Walled b) (evaluated : s.evaluated = true) : s.state.Inside b := by
  cases h with
  | evolution h => exact h.inside evaluated
  | compass h => exact h.inside evaluated

theorem begun (h : s.Walled b) (pos : 0 < s.state.generation) : s.evaluated = true := by
  cases h with
  | evolution h => exact h.begun pos
  | compass h => exact h.begun pos

theorem step (h : s.Walled b) (o : Objective Float) (calls : Nat) :
    (s.step o calls).1.after.Walled b := by
  cases h with
  | evolution h => exact .evolution (h.step o calls)
  | compass h => exact .compass (h.step o calls)

theorem stepped (h : s.Walled b) (o : Objective Float) (n calls : Nat) :
    (stepped o n s calls).2.1.Walled b := by
  induction n generalizing s calls with
  | zero => exact h
  | succ n ih => exact ih (h.step o calls) _

theorem ended (h : s.Walled b) (terminated : s.state.isTerminated = true) :
    0 < s.state.generation := by
  cases h with
  | evolution h => exact h.ended terminated
  | compass h => exact h.ended terminated

/-- Another token and another status change nothing, as long as the status does not say that
the run has ended before it has begun. -/
theorem marked (h : s.Walled b) (token : CancelToken) {status : Status}
    (ended : status.isTerminated = true → 0 < s.state.generation) :
    (s.marked token status).Walled b := by
  cases h with
  | @evolution s h => exact .evolution (h.marks s.watch token status ended)
  | @compass s h => exact .compass (h.marks s.watch token status ended)

theorem paused (h : s.Walled b) (same : Paused s t) : t.Walled b := by
  obtain ⟨token, status, rfl, rfl | ⟨rfl, _⟩⟩ := same
  · exact h.marked token h.ended
  · exact h.marked token nofun

/-- **No call leads out of the box.** -/
theorem steered (h : s.Walled b) (run : Steered s t) : t.Walled b := by
  induction run with
  | start => exact h
  | stepped o calls _ ih => exact ih.step o calls
  | @solved t asks o calls budget _ ih =>
      obtain ⟨n, same⟩ := paused_solve t asks o calls budget
      exact (ih.stepped o n calls).paused same
  | @cancelled t _ ih =>
      rw [Solver.cancel, setToken_eq_marked]
      exact ih.marked _ ih.ended
  | @marked t _ ih =>
      rw [markCancelled_eq_marked]
      exact ih.marked _ nofun
  | populated lengths _ ht ih =>
      cases ih with
      | evolution h =>
          obtain ⟨s', hs', rfl⟩ := Evolution.exists_of_map_eq_ok ht
          exact .evolution (h.setInitialPopulation lengths hs')
      | compass h =>
          cases ht
          exact .compass h
  | guessed _ ht ih =>
      cases ih with
      | evolution h =>
          obtain ⟨s', hs', rfl⟩ := Evolution.exists_of_map_eq_ok ht
          exact .evolution (h.setInitialGuess hs')
      | compass h =>
          obtain ⟨s', hs', rfl⟩ := Evolution.exists_of_map_eq_ok ht
          exact .compass (h.setInitialGuess hs')

/-- A generation that succeeds leaves evaluated points, and so does any after it. -/
theorem evaluated_step (h : s.Walled b)
    (due : s.evaluated = true ∨ ∃ ended, (s.step o calls).1.result = .ok ended) :
    (s.step o calls).1.after.evaluated = true := by
  cases h with
  | evolution h =>
      rcases due with evaluated | ⟨ended, success⟩
      · exact Evolution.evaluated_step evaluated o calls
      · exact Evolution.evaluated_of_step_ok h success
  | compass h => exact Compass.evaluated_step h due

theorem evaluated_stepped (h : s.Walled b) (evaluated : s.evaluated = true) (n calls : Nat) :
    (Solver.stepped o n s calls).2.1.evaluated = true := by
  induction n generalizing s calls with
  | zero => exact evaluated
  | succ n ih => exact ih (h.step o calls) (h.evaluated_step (.inl evaluated)) _

/-- **What was evaluated stays so**, whatever a user does. -/
theorem evaluated_steered (h : s.Walled b) (evaluated : s.evaluated = true)
    (run : Steered s t) : t.evaluated = true := by
  induction run with
  | start => exact evaluated
  | stepped o calls before ih => exact (h.steered before).evaluated_step (.inl ih)
  | @solved t asks o calls budget before ih =>
      obtain ⟨n, same⟩ := paused_solve t asks o calls budget
      exact (evaluated_of_paused same).trans ((h.steered before).evaluated_stepped ih n calls)
  | @cancelled t _ ih =>
      rw [Solver.cancel, setToken_eq_marked, evaluated_marked]
      exact ih
  | @marked t _ ih =>
      rw [markCancelled_eq_marked, evaluated_marked]
      exact ih
  | @populated t u p _ before ht ih =>
      cases t with
      | evolution s =>
          obtain ⟨s', hs', rfl⟩ := Evolution.exists_of_map_eq_ok ht
          cases (Evolution.setInitialPopulation_eq_ok hs').1.symm.trans ih
      | compass s =>
          cases ht
          exact ih
      | ensemble => cases ih
  | @guessed t u x before ht ih =>
      cases t with
      | evolution s =>
          obtain ⟨s', hs', rfl⟩ := Evolution.exists_of_map_eq_ok ht
          cases (Evolution.setInitialGuess_eq_ok hs').1.symm.trans ih
      | compass s =>
          obtain ⟨s', hs', rfl⟩ := Evolution.exists_of_map_eq_ok ht
          cases (Compass.setInitialGuess_eq_ok hs').1.symm.trans ih
      | ensemble => cases ih

end Walled

/-! ## The box holds -/

/-- A solver without members whose strategy has trials of the right dimension, and whose
repair keeps the dimension of a point. -/
def Fitting : Solver Float → Prop
  | .evolution s => (∀ x, s.strategy = some x → x.Fits s.dim) ∧ s.constraints.KeepLength
  | .compass s => s.constraints.KeepLength
  | .ensemble .. => False

variable {size : Nat} {seed : Seed}

theorem walled_prepare (fitting : s.Fitting)
    (ready : (s.prepare (some b) size seed).result = .ok ()) :
    (s.prepare (some b) size seed).after.Walled b := by
  cases s with
  | evolution s => exact .evolution (Evolution.walled_prepare fitting.1 fitting.2 ready)
  | compass s => exact .compass (Compass.walled_prepare fitting ready)
  | ensemble => exact fitting.elim

/-- **The box always holds.**  Take a run of differential evolution whose strategy has trials
of the problem's dimension, or a compass search, with any repair that keeps the dimension of
a point, and make it ready in a box; the ends of a box are in order, none of them missing.
A user may then call it in any way, on any objectives: with start values, with steps and
calls of `solve` that succeed or fail, with requests to stop.  In every state after a step
that succeeded, and in every state in which a generation is completed, so after one inside a
call of `solve` too, the box holds every member and the best point: there is one coordinate
per dimension, none is below the lower end or above the upper one, all that are numbers are
between the two, and in a fixed dimension each is the end itself, and a number.  The clamp
of the machine has an answer on every point that is ever clipped. -/
theorem holds_from_first_success (fitting : s.Fitting)
    (ready : (s.prepare (some b) size seed).result = .ok ()) :
    (∀ u o calls ended t, Steered (s.prepare (some b) size seed).after u →
        (u.step o calls).1.result = .ok ended → Steered (u.step o calls).1.after t →
          t.state.Inside b) ∧
      (∀ t, Steered (s.prepare (some b) size seed).after t → 0 < t.state.generation →
        t.state.Inside b) ∧
      ∀ x, b.clip? x = some (b.clip x) := by
  have start := walled_prepare fitting ready
  refine ⟨fun u o calls ended t before success later => ?_, fun t run pos => ?_, b.clip?_eq⟩
  · have walled := start.steered before
    have evaluated := walled.evaluated_step (.inr ⟨ended, success⟩)
    have next := walled.step o calls
    exact (next.steered later).inside (next.evaluated_steered evaluated later)
  · have walled := start.steered run
    exact walled.inside (walled.begun pos)

/-! ### A repair that throws points out -/

/-- The unit interval, and the point 2. -/
def flatBox : Box Float := ⟨[⟨0, 1, by decide +kernel⟩, ⟨2, 2, by decide +kernel⟩]⟩

/-- A run of differential evolution whose repair has no number for small coordinates, and
throws the others far away. -/
def thrown : Solver Float :=
  .evolution { Evolution.standard 2 false with
    constraints := ⟨some fun x => x.map fun v =>
      if v < 0.1 then Double.nan else 1000 * (v - 0.5), none⟩ }

theorem thrown_fitting : thrown.Fitting := by
  refine ⟨?_, fun x => List.length_map _⟩
  rintro x ⟨⟩
  exact Differential.fits _ _

/-- The run, made ready. -/
def thrownReady : Solver Float := (thrown.prepare (some flatBox) 4 (.number 1)).after

/-- The first coordinate, to be minimised. -/
def firstCoordinate : Objective Float := .ofFunction fun x => x.headD 0

/-- The run after a step. -/
def thrownOnce : Solver Float := (thrownReady.step firstCoordinate 0).1.after

/-- The run after two more steps. -/
def thrownLater : Solver Float :=
  (thrownOnce.solve (fun _ => false) firstCoordinate 8 (some 2)).1.after

/-- The box holds the run, though each of its points was thrown out by the repair. -/
theorem holds_from_first_success_thrown :
    thrownLater.state.Inside flatBox ∧ thrownLater.state.generation = 3 ∧
      flatBox.clip? [Double.nan, Double.nan] = some (flatBox.clip [Double.nan, Double.nan]) := by
  obtain ⟨_, ready⟩ := exists_ok_of_isOk
    (r := (thrown.prepare (some flatBox) 4 (.number 1)).result) (by decide +kernel)
  obtain ⟨ended, success⟩ := exists_ok_of_isOk
    (r := (thrownReady.step firstCoordinate 0).1.result) (by decide +kernel)
  obtain ⟨later, _, answered⟩ := holds_from_first_success thrown_fitting ready
  have solved : Steered thrownOnce thrownLater :=
    .solved (fun _ => false) firstCoordinate 8 (some 2) .start
  exact ⟨later thrownReady firstCoordinate 0 ended thrownLater .start success solved,
    by decide +kernel, answered _⟩

end Solver
end BoxSearch

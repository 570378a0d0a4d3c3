import BoxSearch.Proofs.Compass.Rescaling
import BoxSearch.Proofs.Evolution.Coherence
import BoxSearch.Proofs.Solver.Bisimulation

/-!
# Only the order of energies matters

Take an objective and send its values through a function that keeps their order.  A run on
the one goes where the run on the other goes: `transcript_through` says so of every call
that a user makes on a run of differential evolution or on a compass search, as long as
nothing in it looks at energies in another way than to compare them.

A `Call` is what a user does with a solver, and the `transcript` of a list of calls is what
is seen from outside: the result of each, and what is committed after it.
-/

namespace BoxSearch

/-! ## Checkpoints with other energies -/

namespace Checkpoint

variable {α : Type}

mutual

/-- The checkpoint with its energies sent through a function, at every depth. -/
def through (g : Float → Float) : Checkpoint α → Checkpoint α
  | .evolution state generator evaluated => .evolution (state.through g) generator evaluated
  | .compass state steps evaluated => .compass (state.through g) steps evaluated
  | .ensemble state stopped members =>
    .ensemble (state.through g) stopped (throughAll g members)

/-- The same of several checkpoints. -/
def throughAll (g : Float → Float) : List (Checkpoint α) → List (Checkpoint α)
  | [] => []
  | c :: cs => through g c :: throughAll g cs

end

end Checkpoint

namespace Solver

/-! ## Calls -/

/-- What a user does with a solver that was made ready. -/
inductive Call (α : Type) where
  /-- makes a generation -/
  | step
  /-- solves, with a budget if there is one -/
  | solve (budget : Option Nat)
  /-- asks the run to stop -/
  | cancel
  /-- records that a request was seen -/
  | mark
  /-- replaces the drawn population -/
  | populate (p : Population α)
  /-- replaces the start point -/
  | guess (x : Point α)

variable {α : Type} [Scalar α] {ρ : Float → Float → Prop}
variable {s t : Solver α} {o o' : Objective α} {calls calls' : Nat}

/-- The solver with new start values; one that refuses them stays as it is. -/
def offered (s : Solver α) (taken : Except SolverError (Solver α)) :
    Except SolverError (Option Bool) × Solver α :=
  match taken with
  | .ok t => (.ok none, t)
  | .error e => (.error e, s)

/-- Makes a call: its result, the solver afterwards, and the evaluations made.  The result
of a step tells whether the run has ended. -/
def Call.make (o : Objective α) (s : Solver α) (calls : Nat) :
    Call α → Except SolverError (Option Bool) × Solver α × Nat
  | .step => let r := s.step o calls; (r.1.result.map some, r.1.after, r.2)
  | .solve budget =>
    let r := s.solve (fun _ => false) o calls budget
    (r.1.result.map fun _ => none, r.1.after, r.2)
  | .cancel => (.ok none, s.cancel, calls)
  | .mark => (.ok none, s.markCancelled, calls)
  | .populate p => let r := s.offered (s.setInitialPopulation p); (r.1, r.2, calls)
  | .guess x => let r := s.offered (s.setInitialGuess x); (r.1, r.2, calls)

/-- Calls one after the other: of each its result, and what is committed after it. -/
def transcript (o : Objective α) :
    List (Call α) → Solver α → Nat → List (Except SolverError (Option Bool) × Checkpoint α)
  | [], _, _ => []
  | c :: cs, s, calls =>
    let (result, t, calls) := c.make o s calls
    (result, t.checkpoint) :: transcript o cs t calls

/-! ## Matched solvers -/

/-- A solver without members in which energies are only compared. -/
def Comparing : Solver α → Prop
  | .evolution s => s.Comparing
  | .compass s => s.Comparing
  | .ensemble .. => False

/-- Two solvers without members differ in nothing but matched energies. -/
inductive Matched (ρ : Float → Float → Prop) : Solver α → Solver α → Prop
  | evolution {s t : Evolution α} (h : s.Matched ρ t) : Matched ρ (.evolution s) (.evolution t)
  | compass {s t : Compass α} (h : s.Matched ρ t) : Matched ρ (.compass s) (.compass t)

theorem Comparing.of_settings (h : s.Comparing) (same : t.settings = s.settings) :
    t.Comparing := by
  cases s <;> cases t <;> simp only [settings, reduceCtorEq] at same
  case evolution s t => exact Evolution.Comparing.of_settings h (Solver.evolution.inj same)
  case compass s t => exact Compass.Comparing.of_settings h (Solver.compass.inj same)
  case ensemble => exact h.elim

namespace Matched

theorem state (h : s.Matched ρ t) : s.state.Matched ρ t.state := by
  rcases h with ⟨_, _, rfl, hs, _⟩ | ⟨_, _, rfl, hs, _⟩ <;> exact hs

theorem token (h : s.Matched ρ t) : t.token = s.token := by
  rcases h with ⟨_, _, rfl, _⟩ | ⟨_, _, rfl, _⟩ <;> rfl

theorem setToken (h : s.Matched ρ t) (token : CancelToken) :
    (s.setToken token).Matched ρ (t.setToken token) := by
  rcases h with ⟨state, watch, rfl, hs, hw⟩ | ⟨state, watch, rfl, hs, hw⟩
  · exact .evolution ⟨state, watch, rfl, hs, hw⟩
  · exact .compass ⟨state, watch, rfl, hs, hw⟩

theorem markCancelled (h : s.Matched ρ t) : s.markCancelled.Matched ρ t.markCancelled := by
  rcases h with ⟨_, watch, rfl, hs, hw⟩ | ⟨_, watch, rfl, hs, hw⟩
  · exact .evolution ⟨_, watch, rfl, hs.withStatus .cancelled, hw⟩
  · exact .compass ⟨_, watch, rfl, hs.withStatus .cancelled, hw⟩

theorem cancel (h : s.Matched ρ t) : s.cancel.Matched ρ t.cancel := by
  rw [Solver.cancel, Solver.cancel, h.token]
  exact h.setToken _

theorem takeCancel (h : s.Matched ρ t) : s.takeCancel.Matched ρ t.takeCancel := by
  rw [Solver.takeCancel, Solver.takeCancel, h.token]
  exact (h.setToken _).markCancelled

theorem turn (h : s.Matched ρ t) (left : Nat) : t.turn left = s.turn left := by
  rw [Solver.turn, Solver.turn, h.state.isTerminated, h.token]

/-- Matched with images under a function, a solver commits the images. -/
theorem checkpoint {V : Float → Prop} {g : Float → Float}
    (h : s.Matched (fun a a' => V a ∧ a' = g a) t) : t.checkpoint = s.checkpoint.through g := by
  cases h with
  | @evolution s t h =>
      obtain ⟨_, _, rfl, hs, _⟩ := h
      exact congrArg (Checkpoint.evolution · s.generator s.evaluated) hs.eq_through
  | @compass s t h =>
      obtain ⟨_, _, rfl, hs, _⟩ := h
      exact congrArg (Checkpoint.compass · s.steps s.evaluated) hs.eq_through

end Matched

/-! ## Matched calls -/

section

variable {box : Option (Box α)} {size : Nat} {seed : Seed}

theorem Comparing.prepare (h : s.Comparing)
    (success : (s.prepare box size seed).result = .ok ()) :
    (s.prepare box size seed).after.Comparing := by
  cases s with
  | evolution s => exact Evolution.Comparing.prepare h success
  | compass s => exact Compass.Comparing.prepare h success
  | ensemble => exact h.elim

/-- A solver that was just made ready is matched with itself: no energy is known. -/
theorem prepare_matched (hρ : Energy.Matching ρ) (comparing : s.Comparing)
    (success : (s.prepare box size seed).result = .ok ()) :
    (s.prepare box size seed).after.Matched ρ (s.prepare box size seed).after := by
  cases s with
  | evolution s => exact .evolution (Evolution.prepare_matched hρ success)
  | compass s => exact .compass (Compass.prepare_matched hρ success)
  | ensemble => exact comparing.elim

end

theorem step_matched (hρ : Energy.Matching ρ) (ho : o.Matched ρ o') (comparing : s.Comparing)
    (h : s.Matched ρ t) (calls calls' : Nat) :
    Reply.Tallies (Matched ρ) (s.step o calls).1 (t.step o' calls').1 := by
  cases h with
  | evolution h =>
      obtain ⟨hr, ha⟩ := Evolution.step_matched hρ comparing ho h calls calls'
      exact ⟨hr, .evolution ha⟩
  | compass h =>
      obtain ⟨hr, ha⟩ := Compass.step_matched hρ comparing ho h calls calls'
      exact ⟨hr, .compass ha⟩

/-- Matched solvers in which energies are only compared run side by side. -/
theorem bisimulation_matched (hρ : Energy.Matching ρ) (ho : o.Matched ρ o') :
    Bisimulation (fun s t => s.Comparing ∧ s.Matched ρ t) o o' where
  turn h left := h.2.turn left
  takeCancel {s t} h := by
    have kept : s.takeCancel.settings = s.settings :=
      (settings_setState _ _).trans (settings_setToken _ _)
    exact ⟨h.1.of_settings kept, h.2.takeCancel⟩
  step {s t} h calls calls' := by
    obtain ⟨hr, ha⟩ := step_matched hρ ho h.1 h.2 calls calls'
    exact ⟨hr, h.1.of_settings (settings_step o s calls), ha⟩

theorem setInitialPopulation_matched (hρ : Energy.Matching ρ) (h : s.Matched ρ t)
    (p : Population α) :
    Answers (Matched ρ) (s.setInitialPopulation p) (t.setInitialPopulation p) := by
  cases h with
  | evolution h => exact (Evolution.setInitialPopulation_matched hρ h p).map .evolution
  | compass h => exact .ok (.compass h)

theorem setInitialGuess_matched (h : s.Matched ρ t) (x : Point α) :
    Answers (Matched ρ) (s.setInitialGuess x) (t.setInitialGuess x) := by
  cases h with
  | evolution h => exact (Evolution.setInitialGuess_matched h x).map .evolution
  | compass h => exact (Compass.setInitialGuess_matched h x).map .compass

theorem offered_matched (h : s.Matched ρ t) {r r' : Except SolverError (Solver α)}
    (answers : Answers (Matched ρ) r r') :
    (t.offered r').1 = (s.offered r).1 ∧ (s.offered r).2.Matched ρ (t.offered r').2 := by
  cases answers with
  | ok taken => exact ⟨rfl, taken⟩
  | error e => exact ⟨rfl, h⟩

/-- **A call on matched solvers** has the same result, and leaves solvers that are matched. -/
theorem make_matched (hρ : Energy.Matching ρ) (ho : o.Matched ρ o') (comparing : s.Comparing)
    (h : s.Matched ρ t) (c : Call α) (calls calls' : Nat) :
    (c.make o' t calls').1 = (c.make o s calls).1 ∧
      (c.make o s calls).2.1.Matched ρ (c.make o' t calls').2.1 := by
  cases c with
  | step =>
      obtain ⟨hr, ha⟩ := step_matched hρ ho comparing h calls calls'
      exact ⟨congrArg (Except.map some) hr, ha⟩
  | solve budget =>
      obtain ⟨hr, ha⟩ := (bisimulation_matched hρ ho).solveFrom ⟨comparing, h⟩
        (budget.getD unlimited) calls calls' [] []
      exact ⟨congrArg (Except.map fun _ => none) hr, ha.2⟩
  | cancel => exact ⟨rfl, h.cancel⟩
  | mark => exact ⟨rfl, h.markCancelled⟩
  | populate p => exact offered_matched h (setInitialPopulation_matched hρ h p)
  | guess x => exact offered_matched h (setInitialGuess_matched h x)

/-- No call changes how a solver was set up. -/
theorem settings_make (c : Call α) (o : Objective α) (s : Solver α) (calls : Nat) :
    (c.make o s calls).2.1.settings = s.settings := by
  cases c with
  | step => exact settings_step o s calls
  | solve budget =>
      have run : Reached (fun _ => True) s _ (s.solve (fun _ => false) o calls budget).1.after :=
        .solved (fun _ => false) calls budget .start trivial
      exact settings_of_reached run
  | cancel => exact settings_setToken s _
  | mark => exact settings_setState s _
  | populate p =>
      simp only [Call.make, offered]
      cases hp : s.setInitialPopulation p with
      | ok t => exact settings_setInitialPopulation hp
      | error e => rfl
  | guess x =>
      simp only [Call.make, offered]
      cases hx : s.setInitialGuess x with
      | ok t => exact settings_setInitialGuess hx
      | error e => rfl

/-! ## Runs -/

theorem transcript_of_matched {V : Float → Prop} {g : Float → Float}
    (hg : Energy.Rescales V g) (ho : o.Matched (fun a a' => V a ∧ a' = g a) o')
    (comparing : s.Comparing) (h : s.Matched (fun a a' => V a ∧ a' = g a) t)
    (cs : List (Call α)) (calls calls' : Nat) :
    transcript o' cs t calls' =
      (transcript o cs s calls).map fun entry => (entry.1, entry.2.through g) := by
  induction cs generalizing s t calls calls' with
  | nil => rfl
  | cons c cs ih =>
      obtain ⟨result, matched⟩ := make_matched hg.matching ho comparing h c calls calls'
      have rest := ih (comparing.of_settings (settings_make c o s calls)) matched
        (c.make o s calls).2.2 (c.make o' t calls').2.2
      simp only [transcript, List.map_cons]
      rw [result, matched.checkpoint, rest]

/-- **Only the order of the values matters.**  Let `V` hold of infinity and of every value
of an objective, and let `g` keep the order of the numbers in `V`, leave infinity where it
is, and have no number for a missing one.  Take a run of differential evolution with any
variant, mutation and crossover rate, or a compass search with any mesh, without a penalty,
with any repair, box and caps, and with a criterion made of tests of generations, of
evaluations and of stagnation; and make it ready from any box, size and seed.  Then for any
calls, one after the other, with any evaluations made before, the run on the objective
rescaled by `g` has the results of the run on the objective itself, and after each call it
has committed the same: population, best point, generation, evaluations, status with its
reason, generator and step lengths, with the energies sent through `g`. -/
theorem transcript_through {V : Float → Prop} {g : Float → Float} (rescales : Energy.Rescales V g)
    (pure : o.Pure) (values : ∀ n x v, o.eval n x = .ok v → V v) (comparing : s.Comparing)
    {box : Option (Box α)} {size : Nat} {seed : Seed}
    (success : (s.prepare box size seed).result = .ok ()) (cs : List (Call α))
    (calls calls' : Nat) :
    transcript (o.through g) cs (s.prepare box size seed).after calls' =
      (transcript o cs (s.prepare box size seed).after calls).map fun entry =>
        (entry.1, entry.2.through g) :=
  transcript_of_matched rescales (Objective.matched_through pure values)
    (comparing.prepare success) (prepare_matched rescales.matching comparing success) cs calls
    calls'

/-! ### Squared values -/

/-- A landscape of three plateaus. -/
def plateaus : Objective Float :=
  .ofFunction fun x => if x.headD 0 < -100 then 4 else if x.headD 0 < 100 then 1 else 9

/-- The heights of the plateaus, and the energy of a point that was never evaluated. -/
def plateauHeight (v : Float) : Prop := v = 1 ∨ v = 4 ∨ v = 9 ∨ v = Double.infinity

/-- The square of a number keeps the order of the heights, though not of all doubles. -/
theorem rescales_plateauHeight : Energy.Rescales plateauHeight fun v => v * v where
  lt_iff := by
    rintro a b (rfl | rfl | rfl | rfl) (rfl | rfl | rfl | rfl) _ _ <;> decide +kernel
  infinity_mem := .inr (.inr (.inr rfl))
  infinity := by decide +kernel
  missing := by
    rintro a (rfl | rfl | rfl | rfl) <;> decide +kernel

/-- A run of differential evolution on a line that stops when nothing improves. -/
def settling : Solver Float :=
  .evolution { Evolution.standard 1 false with
    watch := some (.ofCriterion (.any [.test (.stagnation 2), .test (.maxGenerations 9)])) }

theorem settling_comparing : settling.Comparing where
  strategy := by
    rintro x ⟨⟩
    exact ⟨_, rfl⟩
  map := by
    rintro m ⟨⟩
    exact EvaluationMap.serial_orderly
  unpenalised := rfl
  watch := by
    rintro w ⟨⟩
    rfl

/-- The run, made ready. -/
def settlingReady : Solver Float := (settling.prepare none 4 (.number 2)).after

/-- The run stops in the same generation for the same reason on the squared heights, and
with the squares of its energies. -/
theorem transcript_through_plateaus :
    transcript (plateaus.through fun v => v * v) [.step, .solve (some 5)] settlingReady 7 =
        (transcript plateaus [.step, .solve (some 5)] settlingReady 0).map (fun entry =>
          (entry.1, entry.2.through fun v => v * v)) ∧
      (settlingReady.step plateaus 0).1.after.state.energies = [4, 4, 9, 4] ∧
      ((settlingReady.step plateaus 0).1.after.solve (fun _ => false) plateaus 8
        (some 5)).1.after.state.reason? = some "No improvement for 2 generations" := by
  obtain ⟨_, success⟩ := exists_ok_of_isOk (r := (settling.prepare none 4 (.number 2)).result)
    (by decide +kernel)
  have values : ∀ n x v, plateaus.eval n x = .ok v → plateauHeight v := by
    rintro n x v ⟨⟩
    dsimp only [plateauHeight]
    split
    · exact .inr (.inl rfl)
    split
    · exact .inl rfl
    · exact .inr (.inr (.inl rfl))
  exact ⟨transcript_through rescales_plateauHeight (fun _ _ _ => rfl) values settling_comparing
    success _ 0 7, by decide +kernel, by decide +kernel⟩

end Solver
end BoxSearch

import BoxSearch.Proofs.Solver.Calls
import BoxSearch.Proofs.Solver.Marks
import Mathlib.Algebra.GroupWithZero.Nat

/-!
# Runs in slices

A run need not be made by one call of `solve`.  It can be cut into slices: calls with
budgets of their own, stopped by requests that come before a call or out of a generation,
and taken up again later.  This file compares such a run with the one in which the same
solver is stepped directly.

Stopping leaves a mark on token and status, and no generation reads those (`step_marked`),
so a solver that was stopped is the one that was not, but for the marks: it is `Paused`.
Two such solvers stay so when both are stepped (`Paused.step`), and from there the
comparison is an induction on the steps of one call (`solveFrom_eq_stepped`) and then on
the calls (`sliced_eq_stepped`).
-/

namespace BoxSearch
namespace Solver

variable {α : Type} [Scalar α]
variable {a b s t : Solver α} {o : Objective α} {asks : Event α → Bool}
variable {past : List (Event α)} {left calls : Nat}

/-! ## Direct steps -/

/-- A number of steps one after the other, whatever becomes of them: their results, the
solver afterwards, and the evaluations made. -/
def stepped (o : Objective α) :
    Nat → Solver α → Nat → List (Except SolverError Bool) × Solver α × Nat
  | 0, s, calls => ([], s, calls)
  | n + 1, s, calls =>
    let (reply, calls) := s.step o calls
    let (results, t, calls) := stepped o n reply.after calls
    (reply.result :: results, t, calls)

/-- What results one after the other come to: the first error, if there is one. -/
def outcome {β : Type} : List (Except SolverError β) → Except SolverError Unit
  | [] => .ok ()
  | .error e :: _ => .error e
  | .ok _ :: results => outcome results

theorem outcome_append {β : Type} (rs rs' : List (Except SolverError β)) :
    outcome (rs ++ rs') = (outcome rs).bind fun _ => outcome rs' := by
  induction rs with
  | nil => rfl
  | cons r rs ih =>
      cases r with
      | error e => rfl
      | ok x => exact ih

theorem stepped_succ (n : Nat) :
    stepped o (n + 1) s calls =
      ((s.step o calls).1.result :: (stepped o n (s.step o calls).1.after (s.step o calls).2).1,
        (stepped o n (s.step o calls).1.after (s.step o calls).2).2) := rfl

/-- More steps are steps after steps. -/
theorem stepped_add (m n : Nat) :
    stepped o (m + n) s calls =
      ((stepped o m s calls).1 ++
          (stepped o n (stepped o m s calls).2.1 (stepped o m s calls).2.2).1,
        (stepped o n (stepped o m s calls).2.1 (stepped o m s calls).2.2).2) := by
  induction m generalizing s calls with
  | zero => rw [Nat.zero_add]; rfl
  | succ m ih =>
      rw [show m + 1 + n = m + n + 1 by omega, stepped_succ, ih, stepped_succ]
      rfl

/-- Steps of a run that has ended lead nowhere. -/
theorem stepped_of_isTerminated (n : Nat) (ended : s.state.isTerminated = true) :
    (stepped o n s calls).2.1 = s := by
  induction n generalizing calls with
  | zero => rfl
  | succ n ih =>
      rw [stepped_succ, (step_of_isTerminated o calls ended).1]
      exact ih

/-! ## Paused solvers -/

/-- One solver is another that was stopped: the two differ in nothing but the token and
the status, and in the status only if the one says that it was stopped and the run of the
other goes on. -/
def Paused (b a : Solver α) : Prop :=
  ∃ token status, a = b.marked token status ∧
    (status = b.state.status ∨ status = .cancelled ∧ b.state.isTerminated = false)

namespace Paused

theorem refl (b : Solver α) : Paused b b := ⟨_, _, (marked_self b).symm, Or.inl rfl⟩

/-- Both runs have ended, or neither has. -/
theorem isTerminated (h : Paused b a) : a.state.isTerminated = b.state.isTerminated := by
  obtain ⟨token, status, rfl, rfl | ⟨rfl, hb⟩⟩ := h
  · exact congrArg Status.isTerminated status_marked
  · rw [hb]
    exact congrArg Status.isTerminated status_marked

theorem generation (h : Paused b a) : a.state.generation = b.state.generation := by
  obtain ⟨token, status, rfl, _⟩ := h
  cases b <;> rfl

theorem setToken (h : Paused b a) (token : CancelToken) : Paused b (a.setToken token) := by
  obtain ⟨_, status, rfl, hs⟩ := h
  exact ⟨token, status, by rw [setToken_eq_marked, marked_marked, status_marked], hs⟩

theorem takeCancel (h : Paused b a) (going : a.state.isTerminated = false) :
    Paused b a.takeCancel := by
  have hb : b.state.isTerminated = false := h.isTerminated ▸ going
  obtain ⟨token, status, rfl, _⟩ := h
  refine ⟨token.take.2, .cancelled, ?_, Or.inr ⟨rfl, hb⟩⟩
  simp only [Solver.takeCancel, setToken_eq_marked, markCancelled_eq_marked, marked_marked,
    token_marked]

theorem heed {reply : Reply (Solver α) α Bool} (h : Paused b reply.after)
    (asks : Event α → Bool) : Paused b (Solver.heed asks reply) := by
  unfold Solver.heed
  split
  · exact h.setToken _
  · exact h

/-- **Stepping does not tell a solver that was stopped from the one that was not.** -/
theorem step (h : Paused b a) (going : a.state.isTerminated = false) (o : Objective α)
    (calls : Nat) :
    (a.step o calls).1.result = (b.step o calls).1.result ∧
      (a.step o calls).2 = (b.step o calls).2 ∧
      Paused (b.step o calls).1.after (a.step o calls).1.after := by
  have hb : b.state.isTerminated = false := h.isTerminated ▸ going
  obtain ⟨token, status, rfl, hs⟩ := h
  have hst : status.isTerminated = false := by
    rcases hs with rfl | ⟨rfl, _⟩
    · exact hb
    · rfl
  obtain ⟨hr, hn, ha | ⟨_, kept, ha⟩⟩ := step_marked b token o calls hb hst
  · refine ⟨hr, hn, ?_⟩
    rw [ha]
    exact (refl _).setToken token
  · refine ⟨hr, hn, token, status, ha, ?_⟩
    have hb' : (b.step o calls).1.after.state.isTerminated = false := by
      rw [State.isTerminated, kept]
      exact hb
    rw [kept]
    rcases hs with hs | ⟨hs, _⟩
    · exact Or.inl hs
    · exact Or.inr ⟨hs, hb'⟩

/-- A run that has ended was not stopped: only the tokens can differ. -/
theorem eq_setToken (h : Paused b a) (ended : a.state.isTerminated = true) :
    a = b.setToken a.token := by
  have hb : b.state.isTerminated = true := h.isTerminated ▸ ended
  obtain ⟨token, status, rfl, rfl | ⟨_, hb'⟩⟩ := h
  · rw [setToken_eq_marked, token_marked]
  · rw [hb] at hb'
    cases hb'

end Paused

/-! ## One call -/

/-- A solver comes to a number of direct steps of another one: result, evaluations and
solver afterwards are those of the steps, but for the marks of a request, and each step
commits a generation when none of them fails. -/
structure Walked (o : Objective α) (b : Solver α) (calls n : Nat)
    (result : Except SolverError Unit) (after : Solver α) (evaluations : Nat) : Prop where
  result : result = outcome (stepped o n b calls).1
  evaluations : evaluations = (stepped o n b calls).2.2
  paused : Paused (stepped o n b calls).2.1 after
  generation : outcome (stepped o n b calls).1 = .ok () →
    (stepped o n b calls).2.1.state.generation = b.state.generation + n

variable {m n calls' calls'' : Nat} {r r' : Except SolverError Unit}

theorem Walked.none (h : Paused b a) : Walked o b calls 0 (.ok ()) a calls :=
  ⟨rfl, rfl, h, fun _ => rfl⟩

/-- Steps after steps; an error in the first ones is the error of all. -/
theorem Walked.append (first : Walked o b calls m r s calls')
    (second : Walked o (stepped o m b calls).2.1 calls' n r' t calls'') :
    Walked o b calls (m + n) (r.bind fun _ => r') t calls'' := by
  obtain ⟨rfl, rfl, _, hgen⟩ := first
  obtain ⟨rfl, rfl, hp, hgen'⟩ := second
  refine ⟨?_, ?_, ?_, ?_⟩
  · rw [stepped_add, outcome_append]
  · rw [stepped_add]
  · rw [stepped_add]
    exact hp
  · rw [stepped_add, outcome_append]
    intro hok
    cases hr : outcome (stepped o m b calls).1 with
    | error e =>
        rw [hr] at hok
        cases hok
    | ok u =>
        rw [hr] at hok
        rw [hgen' hok, hgen hr, Nat.add_assoc]

/-- One step. -/
theorem walked_step (h : Paused (b.step o calls).1.after a)
    (going : b.state.isTerminated = false) :
    Walked o b calls 1 ((b.step o calls).1.result.map fun _ => ()) a (b.step o calls).2 := by
  refine ⟨?_, rfl, h, ?_⟩
  · rw [stepped_succ]
    cases (b.step o calls).1.result <;> rfl
  · rw [stepped_succ]
    intro hok
    cases hr : (b.step o calls).1.result with
    | error e =>
        rw [hr] at hok
        cases hok
    | ok ended => exact (step_going going hr).1

/-- A call that is not due for a step makes none. -/
theorem walked_of_not_due (calls : Nat) (past : List (Event α)) (h : Paused b a)
    (notDue : a.turn left ≠ .due) :
    Walked o b calls 0 (solveFrom asks o left calls past a).1.result
      (solveFrom asks o left calls past a).1.after (solveFrom asks o left calls past a).2 := by
  rcases turn_cases a left with ⟨_, _, ht⟩ | ht | ht
  · exact absurd ht notDue
  · rw [solveFrom_cancelled ht]
    exact .none (h.takeCancel (turn_eq_cancelled_iff.1 ht).1)
  · rw [solveFrom_done ht]
    exact .none h

/-- **A call of `solve` makes direct steps**, at most as many as are left to it. -/
theorem solveFrom_walked (left calls : Nat) (past : List (Event α)) (h : Paused b a) :
    ∃ n, n ≤ left ∧ Walked o b calls n (solveFrom asks o left calls past a).1.result
      (solveFrom asks o left calls past a).1.after (solveFrom asks o left calls past a).2 := by
  induction left generalizing calls past a b with
  | zero =>
      have notDue : a.turn 0 ≠ .due := fun ht => (turn_eq_due_iff.1 ht).2.2 rfl
      exact ⟨0, Nat.le_refl _, walked_of_not_due calls past h notDue⟩
  | succ left ih =>
      by_cases ht : a.turn (left + 1) = .due
      · have going := (turn_eq_due_iff.1 ht).1
        have hb : b.state.isTerminated = false := h.isTerminated ▸ going
        obtain ⟨hr, hn, hp⟩ := h.step going o calls
        have first := walked_step (hp.heed asks) hb
        rw [solveFrom_due ht, solveOn, hr, hn]
        cases hres : (b.step o calls).1.result with
        | error e =>
            rw [hres] at first
            exact ⟨1, by omega, first⟩
        | ok ended =>
            rw [hres] at first
            cases ended with
            | true => exact ⟨1, by omega, first⟩
            | false =>
                obtain ⟨n, hle, rest⟩ := ih (b.step o calls).2
                  ((a.step o calls).1.events.reverse ++ past) (hp.heed asks)
                refine ⟨1 + n, by omega, ?_⟩
                exact first.append rest
      · exact ⟨0, Nat.zero_le _, walked_of_not_due calls past h ht⟩

/-! ## Calls after calls -/

/-- A call of `solve` in a run of several. -/
structure Slice (α : Type) where
  /-- the run is asked to stop before the call -/
  requested : Bool
  /-- the events at which a monitor asks the run to stop -/
  asks : Event α → Bool
  /-- the largest number of steps, if there is one -/
  budget : Option Nat

/-- The call. -/
def Slice.solve (x : Slice α) (o : Objective α) (s : Solver α) (calls : Nat) :
    Reply (Solver α) α Unit × Nat :=
  (if x.requested then s.cancel else s).solve x.asks o calls x.budget

/-- Calls one after the other: their results, the solver afterwards and the evaluations
made. -/
def sliced (o : Objective α) :
    List (Slice α) → Solver α → Nat → List (Except SolverError Unit) × Solver α × Nat
  | [], s, calls => ([], s, calls)
  | x :: slices, s, calls =>
    let (reply, calls) := x.solve o s calls
    let (results, t, calls) := sliced o slices reply.after calls
    (reply.result :: results, t, calls)

theorem sliced_cons (x : Slice α) (slices : List (Slice α)) :
    sliced o (x :: slices) s calls =
      ((x.solve o s calls).1.result ::
          (sliced o slices (x.solve o s calls).1.after (x.solve o s calls).2).1,
        (sliced o slices (x.solve o s calls).1.after (x.solve o s calls).2).2) := rfl

theorem outcome_cons (r : Except SolverError Unit) (rs : List (Except SolverError Unit)) :
    outcome (r :: rs) = r.bind fun _ => outcome rs := by
  cases r <;> rfl

/-- One call more. -/
theorem slice_walked (x : Slice α) (calls : Nat) (h : Paused b a) :
    ∃ n, n ≤ x.budget.getD unlimited ∧ Walked o b calls n (x.solve o a calls).1.result
      (x.solve o a calls).1.after (x.solve o a calls).2 := by
  have hx : Paused b (if x.requested then a.cancel else a) := by
    split
    · exact h.setToken _
    · exact h
  exact solveFrom_walked _ calls [] hx

/-- Calls come to the direct steps of all of them. -/
theorem sliced_walked (slices : List (Slice α)) (calls : Nat) (h : Paused b a) :
    ∃ ns : List Nat, List.Forall₂ (fun x n => n ≤ x.budget.getD unlimited) slices ns ∧
      Walked o b calls ns.sum (outcome (sliced o slices a calls).1) (sliced o slices a calls).2.1
        (sliced o slices a calls).2.2 := by
  induction slices generalizing a b calls with
  | nil => exact ⟨[], .nil, .none h⟩
  | cons x slices ih =>
      obtain ⟨n, hle, first⟩ := slice_walked x calls h (o := o)
      obtain ⟨ns, hles, rest⟩ := ih (x.solve o a calls).2 first.paused
      refine ⟨n :: ns, .cons hle hles, ?_⟩
      rw [sliced_cons, outcome_cons, List.sum_cons]
      exact first.append rest

/-! ## The run that is not cut -/

/-- A call of `solve` that nobody interrupts makes the direct steps up to the end of the
run, if it may make that many. -/
theorem solveFrom_uninterrupted (n left calls : Nat) (past : List (Event α)) (hle : n ≤ left)
    (fresh : s.token.cancelled = false) (success : outcome (stepped o n s calls).1 = .ok ())
    (ended : (stepped o n s calls).2.1.state.isTerminated = true)
    (counted : (stepped o n s calls).2.1.state.generation = s.state.generation + n) :
    (solveFrom (fun _ => false) o left calls past s).1.result = .ok () ∧
      (solveFrom (fun _ => false) o left calls past s).1.after = (stepped o n s calls).2.1 ∧
      (solveFrom (fun _ => false) o left calls past s).2 = (stepped o n s calls).2.2 := by
  induction n generalizing s left calls past with
  | zero =>
      have ht : s.turn left = .ended := by
        rw [turn, if_pos (show s.state.isTerminated = true from ended)]
      rw [solveFrom_done (Or.inl ht)]
      exact ⟨rfl, rfl, rfl⟩
  | succ n ih =>
      have going : s.state.isTerminated = false := by
        by_contra hs
        rw [stepped_of_isTerminated _ (by simpa using hs)] at counted
        omega
      obtain ⟨left, rfl⟩ : ∃ k, left = k + 1 := ⟨left - 1, by omega⟩
      have due : s.turn (left + 1) = .due := turn_eq_due_iff.2 ⟨going, fresh, by omega⟩
      have heeds : heed (fun _ => false) (s.step o calls).1 = (s.step o calls).1.after := by
        simp [heed]
      rw [stepped_succ] at success ended counted ⊢
      rw [solveFrom_due due, solveOn, heeds]
      cases hr : (s.step o calls).1.result with
      | error e =>
          rw [hr] at success
          cases success
      | ok b =>
          rw [hr] at success
          obtain ⟨hgen, hend⟩ := step_going going hr
          have counted' : (stepped o n (s.step o calls).1.after (s.step o calls).2).2.1.state.generation
              = (s.step o calls).1.after.state.generation + n := by
            rw [hgen]
            exact counted.trans (by omega)
          cases b with
          | true =>
              -- the run has ended with this step, so no other one was made after it
              have hn : n = 0 := by
                rw [stepped_of_isTerminated n hend] at counted'
                omega
              subst hn
              exact ⟨rfl, rfl, rfl⟩
          | false =>
              exact ih left (s.step o calls).2 _ (by omega)
                ((congrArg _ (token_step s o calls)).trans fresh) success ended counted'

/-- **Slicing, stopping and going on do not change a run.**  Take any solver, any
objective and any calls of `solve` with budgets, stopped by requests that come before a
call or out of its generations.  Then the calls make direct steps, each of them at most as
many as its budget: with the first error of the one there is the same first error of the
other, the evaluations are the same, and so are the solvers afterwards, except for the
token and a status that says that the run was stopped.  Without an error there is one
generation per step.  And if the run has ended then, it ended as one call without budget
ends that nobody interrupts: in the same state, and for the same reason. -/
theorem slices_eq_steps (s : Solver α) (o : Objective α) (slices : List (Slice α)) :
    ∃ ns : List Nat,
      List.Forall₂ (fun x n => ∀ budget, x.budget = some budget → n ≤ budget) slices ns ∧
      outcome (sliced o slices s 0).1 = outcome (stepped o ns.sum s 0).1 ∧
      (sliced o slices s 0).2.2 = (stepped o ns.sum s 0).2.2 ∧
      Paused (stepped o ns.sum s 0).2.1 (sliced o slices s 0).2.1 ∧
      (outcome (sliced o slices s 0).1 = .ok () →
        (sliced o slices s 0).2.1.state.generation = s.state.generation + ns.sum ∧
        ((sliced o slices s 0).2.1.state.isTerminated = true →
          (sliced o slices s 0).2.1.state.generation < UInt64.size →
          s.token.cancelled = false →
          (s.solve (fun _ => false) o 0 none).1.result = .ok () ∧
            (s.solve (fun _ => false) o 0 none).2 = (sliced o slices s 0).2.2 ∧
            (sliced o slices s 0).2.1 =
              (s.solve (fun _ => false) o 0 none).1.after.setToken
                (sliced o slices s 0).2.1.token)) := by
  obtain ⟨ns, hles, walked⟩ := sliced_walked (o := o) slices 0 (Paused.refl s)
  refine ⟨ns, ?_, walked.result, walked.evaluations, walked.paused, ?_⟩
  · refine hles.imp fun x n hle budget hb => ?_
    rw [hb] at hle
    exact hle
  · intro success
    have success' := walked.result ▸ success
    have counted := walked.generation success'
    have hgen : (sliced o slices s 0).2.1.state.generation = s.state.generation + ns.sum := by
      rw [walked.paused.generation, counted]
    refine ⟨hgen, fun ended bound fresh => ?_⟩
    have ended' := walked.paused.isTerminated ▸ ended
    obtain ⟨hr, ha, hn⟩ := solveFrom_uninterrupted ns.sum unlimited 0 []
      (by unfold unlimited; omega) fresh success' ended' counted
    refine ⟨hr, hn.trans walked.evaluations.symm, ?_⟩
    show _ = (solveFrom (fun _ => false) o unlimited 0 [] s).1.after.setToken _
    rw [ha]
    exact walked.paused.eq_setToken ended

/-! ### A run of two generations in four calls -/

/-- A compass search on a line that stops after two generations. -/
def twoProbes : Solver Float :=
  (((Solver.compass (Compass.standard 1)).setLimits ⟨some 2, none⟩).prepare none 1 (.number 1)).after

/-- A call without a step, one that is stopped after a generation, one that is stopped
before it begins, and one to the end. -/
def fourCalls : List (Slice Float) :=
  [⟨false, fun _ => false, some 0⟩, ⟨false, Event.isGeneration, some 5⟩,
    ⟨true, fun _ => false, none⟩, ⟨false, fun _ => false, none⟩]

/-- The run of `fourCalls` succeeds and ends, and so it ends as the run that is not cut. -/
theorem slices_eq_steps_twoProbes :
    ∃ ns : List Nat, ns.sum = 2 ∧
      Paused (stepped (.ofFunction fun x => x.headD 0) ns.sum twoProbes 0).2.1
        (sliced (.ofFunction fun x => x.headD 0) fourCalls twoProbes 0).2.1 ∧
      (sliced (.ofFunction fun x => x.headD 0) fourCalls twoProbes 0).2.1 =
        (twoProbes.solve (fun _ => false) (.ofFunction fun x => x.headD 0) 0 none).1.after.setToken
          (sliced (.ofFunction fun x => x.headD 0) fourCalls twoProbes 0).2.1.token := by
  obtain ⟨ns, _, _, _, paused, success⟩ :=
    slices_eq_steps twoProbes (.ofFunction fun x => x.headD 0) fourCalls
  obtain ⟨_, hok⟩ := exists_ok_of_isOk
    (r := outcome (sliced (.ofFunction fun x => x.headD 0) fourCalls twoProbes 0).1)
    (by decide +kernel)
  obtain ⟨counted, whole⟩ := success hok
  have generations : (sliced (.ofFunction fun x => x.headD 0) fourCalls twoProbes
    0).2.1.state.generation = 2 := by decide +kernel
  have start : twoProbes.state.generation = 0 := by decide +kernel
  have ended : (sliced (.ofFunction fun x => x.headD 0) fourCalls twoProbes
    0).2.1.state.isTerminated = true := by decide +kernel
  have fresh : twoProbes.token.cancelled = false := by decide +kernel
  refine ⟨ns, by omega, paused, (whole ended ?_ fresh).2.2⟩
  rw [generations]
  decide

end Solver
end BoxSearch

import BoxSearch.Proofs.Compass.Step
import BoxSearch.Proofs.Criterion.Asking
import BoxSearch.Proofs.Evolution.Invariant
import BoxSearch.Proofs.Evolution.Selection
import BoxSearch.Proofs.Session.Memory

/-!
# The accounts of a compass search

A compass search evaluates its start point in its first generation, in a batch of its own,
and records it.  When the probes of that generation fail, the search goes back to where
it was and its counter with it, but the record stands.  So a log of a compass search is
not its counter spelled out: before the evaluations that count there is a record of the
start point, with the number 1, for every attempt at the first generation that got as far
as the probes.

* `spends_advance` — before anything is taken back, log and counter agree;
* `spends_step_ok` — so they do after a generation that succeeds;
* `numbers_step_error` — what a generation that fails leaves in the log;
* `evaluations_numbered_iff` — what a log holds after any number of attempts, and when it
  is the counter spelled out;
* `evaluations_not_numbered` — a run in which it is not.
-/

namespace BoxSearch
namespace Compass

variable {α : Type} [Scalar α]
variable {s t : Compass α} {o : Objective α} {calls : Nat} {b : Bool} {e : SolverError}

theorem length_of_evaluateBatch {xs : List (Point α)} {es : List Float} {n : Nat}
    (hb : s.evaluateBatch o calls xs = (.ok es, n)) : es.length = xs.length :=
  Batch.length_of_evaluate (show (s.evaluateBatch o calls xs).1 = .ok es by rw [hb])

/-! ## The start point -/

theorem spends_evaluateStart (s : Compass α) (o : Objective α) (calls : Nat) :
    Event.Spends s.state.evaluations (s.evaluateStart o calls).1.events
      (s.evaluateStart o calls).1.after.state.evaluations := by
  cases hs : s.evaluated with
  | true =>
      rw [evaluateStart_of_evaluated hs]
      exact .of_numbers_eq_nil rfl
  | false =>
      cases hr : s.state.population.rows with
      | nil =>
          rw [evaluateStart_of_empty hs hr]
          exact .of_numbers_eq_nil rfl
      | cons row rows =>
          rcases hb : s.evaluateBatch o calls [s.finish row] with ⟨e | es, n⟩
          · rw [evaluateStart_of_batch_error hs hr hb]
            exact .of_numbers_eq_nil rfl
          · simp only [evaluateStart, hs, hr, hb, Bool.false_eq_true, if_false, Reply.done]
            have hl : es.length = [s.finish row].length := length_of_evaluateBatch hb
            exact .records hl

/-- A start point whose batch fails is not recorded. -/
theorem numbers_evaluateStart_error (h : (s.evaluateStart o calls).1.result = .error e) :
    Event.numbers (s.evaluateStart o calls).1.events = [] := by
  obtain ⟨k, numbers, counted⟩ := spends_evaluateStart s o calls
  rw [evaluateStart_error h] at counted
  obtain rfl : k = 0 := by omega
  exact numbers

/-- A start point that gets its energy is recorded, as the next evaluation. -/
theorem numbers_evaluateStart_ok (fresh : s.evaluated = false)
    (h : (s.evaluateStart o calls).1.result = .ok ()) :
    Event.numbers (s.evaluateStart o calls).1.events = [s.state.evaluations + 1] := by
  obtain ⟨k, numbers, counted⟩ := spends_evaluateStart s o calls
  rcases evaluateStart_ok h with ⟨hs, _⟩ | ⟨_, row, rows, es, _, _, ha⟩
  · cases fresh.symm.trans hs
  · have once : s.state.evaluations + 1 = s.state.evaluations + k := by
      rw [ha] at counted
      exact counted
    obtain rfl : k = 1 := by omega
    exact numbers

/-! ## The probes -/

theorem checkStop_spends_nothing :
    s.checkStop.events = [] ∧ s.checkStop.after.state.evaluations = s.state.evaluations := by
  unfold checkStop
  cases askWatch s.state s.watch with
  | error e => exact ⟨rfl, rfl⟩
  | ok answer =>
      obtain ⟨reason, watch⟩ := answer
      dsimp only
      split <;> exact ⟨rfl, rfl⟩

theorem evaluations_move (points : List (Point α)) (es : List Float) :
    (s.move points es).state.evaluations = s.state.evaluations + points.length := by
  simp only [move]
  split <;> rfl

theorem spends_explore :
    Event.Spends s.state.evaluations (s.explore o calls).1.events
      (s.explore o calls).1.after.state.evaluations := by
  cases hp : s.probes with
  | error c =>
      rw [explore_of_probes_error hp]
      exact .of_numbers_eq_nil rfl
  | ok points =>
      rcases hb : s.evaluateBatch o calls points with ⟨e | es, n⟩
      · rw [explore_of_batch_error hp hb]
        exact .of_numbers_eq_nil rfl
      · rw [(explore_of_batch_ok hp hb).2, checkStop_spends_nothing.2, evaluations_move]
        simp only [explore, hp, hb, commitGeneration, Reply.preceded,
          checkStop_spends_nothing.1, List.append_nil]
        exact (Event.Spends.records (length_of_evaluateBatch hb)).append_of_numbers_eq_nil rfl

/-- Probes that fail are not recorded. -/
theorem explore_error (h : (s.explore o calls).1.result = .error e) (returned : e.fault? = none) :
    (s.explore o calls).1.events = [] := by
  cases hp : s.probes with
  | error c => rw [explore_of_probes_error hp]; rfl
  | ok points =>
      rcases hb : s.evaluateBatch o calls points with ⟨e' | es, n⟩
      · rw [explore_of_batch_error hp hb]
        rfl
      · -- the probes have their energies, so only a criterion without an answer is left
        rw [(explore_of_batch_ok hp hb).1] at h
        cases hw : askWatch (s.move points es).state (s.move points es).watch with
        | ok p => rw [(checkStop_of_askWatch hw).1] at h; cases h
        | error e' =>
            obtain ⟨c, rfl⟩ := fault_of_askWatch hw
            rw [checkStop_of_askWatch_error hw] at h
            cases h
            cases returned

/-! ## A step -/

theorem advance_eq_of_start_error (hc : s.checkReady o = .ok ())
    (going : s.state.isTerminated = false)
    (hf : (s.evaluateStart o calls).1.result = .error e) :
    (s.advance o calls).1 =
      ⟨.error e, (s.evaluateStart o calls).1.after, (s.evaluateStart o calls).1.events⟩ := by
  unfold advance
  simp only [hc, going]
  rcases hx : s.evaluateStart o calls with ⟨⟨r, t, events⟩, n⟩
  rw [hx] at hf
  cases hf
  rfl

theorem advance_eq_of_start_ok (hc : s.checkReady o = .ok ())
    (going : s.state.isTerminated = false)
    (hf : (s.evaluateStart o calls).1.result = .ok ()) :
    ∃ n, (s.advance o calls).1 =
      ((s.evaluateStart o calls).1.after.running.explore o n).1.preceded
        (s.evaluateStart o calls).1.events := by
  unfold advance
  simp only [hc, going]
  rcases hx : s.evaluateStart o calls with ⟨⟨r, t, events⟩, n⟩
  rw [hx] at hf
  cases hf
  exact ⟨n, rfl⟩

/-- Before anything is taken back, log and counter agree. -/
theorem spends_advance :
    Event.Spends s.state.evaluations (s.advance o calls).1.events
      (s.advance o calls).1.after.state.evaluations := by
  rcases hc : s.checkReady o with e | u
  · rw [advance_of_refused hc]
    exact .of_numbers_eq_nil rfl
  cases going : s.state.isTerminated with
  | true =>
      rw [advance_of_ended hc going]
      exact .of_numbers_eq_nil rfl
  | false =>
      have begun := spends_evaluateStart s o calls
      cases hf : (s.evaluateStart o calls).1.result with
      | error e =>
          rw [advance_eq_of_start_error hc going hf]
          exact begun
      | ok u =>
          obtain ⟨n, ha⟩ := advance_eq_of_start_ok hc going hf
          rw [ha]
          exact begun.append (spends_explore (s := (s.evaluateStart o calls).1.after.running))

theorem spends_step_ok (h : (s.step o calls).1.result = .ok b) :
    Event.Spends s.state.evaluations (s.step o calls).1.events
      (s.step o calls).1.after.state.evaluations := by
  rw [step_result] at h
  rw [step_of_advance_ok h]
  exact spends_advance

/-- The probes are due in a step: nothing is missing for it, the run has not ended, and the
start point has its energy. -/
def ProbesDue (s : Compass α) (o : Objective α) (calls : Nat) : Prop :=
  s.checkReady o = .ok () ∧ s.state.isTerminated = false ∧
    (s.evaluateStart o calls).1.result = .ok ()

/-- **What a failed step leaves in the log.**  It recorded the start point, as the next
evaluation, if it was the one that evaluated it and got as far as the probes; otherwise it
recorded nothing. -/
theorem numbers_step_error (h : (s.step o calls).1.result = .error e)
    (returned : e.fault? = none) :
    ((s.evaluated = false ∧ s.ProbesDue o calls) ∧
        Event.numbers (s.step o calls).1.events = [s.state.evaluations + 1]) ∨
      ¬ (s.evaluated = false ∧ s.ProbesDue o calls) ∧
        Event.numbers (s.step o calls).1.events = [] := by
  rw [step_result] at h
  rw [events_step]
  rcases hc : s.checkReady o with e' | u
  · refine Or.inr ⟨?_, by rw [advance_of_refused hc]; rfl⟩
    rintro ⟨_, hc', _⟩
    cases hc.symm.trans hc'
  cases going : s.state.isTerminated with
  | true => rw [advance_of_ended hc going] at h; cases h
  | false =>
      cases hf : (s.evaluateStart o calls).1.result with
      | error e' =>
          rw [advance_eq_of_start_error hc going hf]
          refine Or.inr ⟨?_, numbers_evaluateStart_error hf⟩
          rintro ⟨_, _, _, hf'⟩
          cases hf.symm.trans hf'
      | ok u =>
          obtain ⟨n, ha⟩ := advance_eq_of_start_ok hc going hf
          rw [ha] at h ⊢
          have silent := explore_error h returned
          simp only [Reply.preceded, silent, List.append_nil]
          cases hs : s.evaluated with
          | false => exact Or.inl ⟨⟨rfl, hc, going, hf⟩, numbers_evaluateStart_ok hs hf⟩
          | true =>
              rw [evaluateStart_of_evaluated hs]
              exact Or.inr ⟨fun due => Bool.noConfusion due.1, rfl⟩

/-- After a generation that succeeds the start point has its energy, or the run had ended
already. -/
theorem evaluated_step_ok (h : (s.step o calls).1.result = .ok b) :
    (s.step o calls).1.after = s ∨ (s.step o calls).1.after.evaluated = true := by
  obtain ⟨_, ⟨_, _, ha⟩ | ⟨_, hf, t, points, es, _, ht, _, _, _, ha⟩⟩ := step_ok h
  · exact Or.inl ha
  · have begun : (s.evaluateStart o calls).1.after.evaluated = true := by
      rcases evaluateStart_ok hf with ⟨hs, ha⟩ | ⟨_, row, rows, es, _, _, ha⟩
      · rw [ha, hs]
      · rw [ha]
        rfl
    have moved : (t.move points es).evaluated = t.evaluated := by
      simp only [move]
      split <;> rfl
    right
    rw [ha, evaluated_checkStop, moved, ht]
    exact begun

/-! ## Attempts -/

/-- What the replies to the steps of a search left in its log: records of the start point
from generations that failed, and then the evaluations that the counter counts. -/
structure Logged (rs : List (Reply (Solver α) α Bool)) (s : Compass α) : Prop where
  /-- the numbers in the log -/
  numbers : Event.numbers (rs.flatMap (·.events)) =
    rs.flatMap Reply.spilled ++ List.range' 1 s.state.evaluations
  /-- failures leave the first evaluation behind and no other -/
  first : ∀ n ∈ rs.flatMap Reply.spilled, n = 1
  /-- nothing is counted before the start point has its energy -/
  unevaluated : s.evaluated = false → s.state.evaluations = 0

theorem logged_start (unspent : s.state.evaluations = 0) : Logged [] s where
  numbers := by rw [unspent]; rfl
  first n hn := by cases hn
  unevaluated _ := unspent

variable {rs : List (Reply (Solver α) α Bool)}

/-- A step adds to the log what it counts, or it fails and adds at most the start point. -/
theorem logged_step (h : Logged rs s)
    (returned : ∀ c, (s.step o calls).1.result ≠ .error (.fault c)) :
    Logged (rs ++ [((Solver.compass s).step o calls).1]) (s.step o calls).1.after := by
  have reply : ((Solver.compass s).step o calls).1 = (s.step o calls).1.lift .compass := rfl
  cases hr : (s.step o calls).1.result with
  | ok b =>
      have spilled : ((Solver.compass s).step o calls).1.spilled = [] := Reply.spilled_of_ok hr
      obtain ⟨k, hk, counted⟩ := spends_step_ok hr
      refine ⟨?_, by simpa [spilled] using h.first, ?_⟩
      · have more : Event.numbers ((Solver.compass s).step o calls).1.events =
            List.range' (s.state.evaluations + 1) k := hk
        rw [List.flatMap_append, List.flatMap_append, List.flatMap_singleton,
          List.flatMap_singleton, Event.numbers_append, h.numbers, more, spilled, counted,
          List.append_nil, List.append_assoc, ← List.range'_append_1, Nat.add_comm 1]
      · intro fresh
        rcases evaluated_step_ok hr with ha | ha
        · rw [ha] at fresh ⊢
          exact h.unevaluated fresh
        · cases ha.symm.trans fresh
  | error e =>
      have nofault := fault?_eq_none returned hr
      have spilled : ((Solver.compass s).step o calls).1.spilled =
          Event.numbers (s.step o calls).1.events := Reply.spilled_of_error hr
      have more : Event.numbers ((Solver.compass s).step o calls).1.events =
          Event.numbers (s.step o calls).1.events := rfl
      rw [step_error hr]
      refine ⟨?_, ?_, h.unevaluated⟩
      · rw [List.flatMap_append, List.flatMap_append, List.flatMap_singleton,
          List.flatMap_singleton, Event.numbers_append, h.numbers, more, spilled]
        rcases numbers_step_error hr nofault with ⟨⟨fresh, _⟩, once⟩ | ⟨_, silent⟩
        · -- the counter is at zero, so behind the start point nothing has been counted yet
          rw [once, h.unevaluated fresh]
          simp
        · rw [silent]
          simp
      · intro n hn
        rw [List.flatMap_append, List.flatMap_singleton, List.mem_append, spilled] at hn
        rcases hn with hn | hn
        · exact h.first n hn
        · rcases numbers_step_error hr nofault with ⟨⟨fresh, _⟩, once⟩ | ⟨_, silent⟩
          · rw [once, h.unevaluated fresh] at hn
            simpa using hn
          · rw [silent] at hn
            cases hn

theorem logged_of_tried {t : Solver α} (h : Logged [] s) (run : Solver.Tried (.compass s) rs t) :
    ∃ s', t = .compass s' ∧ Logged rs s' := by
  induction run with
  | start => exact ⟨s, rfl, h⟩
  | stepped o calls _ returned ih =>
      obtain ⟨s', rfl, logged⟩ := ih
      exact ⟨_, rfl, logged_step logged returned⟩
  | cancelled _ ih =>
      obtain ⟨s', rfl, logged⟩ := ih
      exact ⟨_, rfl, logged.numbers, logged.first, logged.unevaluated⟩
  | marked _ ih =>
      obtain ⟨s', rfl, logged⟩ := ih
      exact ⟨_, rfl, logged.numbers, logged.first, logged.unevaluated⟩
  | guessed _ hu ih =>
      obtain ⟨s', rfl, logged⟩ := ih
      obtain ⟨s'', hg, rfl⟩ := Evolution.exists_of_map_eq_ok hu
      obtain ⟨population, best, rfl⟩ := setInitialGuess_ok hg
      exact ⟨_, rfl, logged.numbers, logged.first, logged.unevaluated⟩
  | tuned _ hu ih =>
      -- no setting concerns the counter or the start point
      obtain ⟨s', rfl, logged⟩ := ih
      cases hu <;> exact ⟨_, rfl, logged.numbers, logged.first, logged.unevaluated⟩

/-- **What a log of a compass search holds.**  A session whose search has spent no
evaluation gets a memory for its evaluations, and its user runs single generations, of which
any may fail at any batch.  Then the memory holds the number 1 for every failed generation
that had evaluated the start point, and behind these the numbers `1, 2, …` up to the
counter.  So it is the counter spelled out exactly if there was no such failure. -/
theorem evaluations_numbered_iff (s : Compass Float) (z y : Session) (hz : z.solver = .compass s)
    (unspent : s.state.evaluations = 0) (watched : z.watching .evaluations = .memory #[])
    (rs : List (Reply (Solver Float) Float Bool)) (run : z.Stepped rs y) :
    ∃ s', y.solver = .compass s' ∧
      (y.memory .evaluations).map (·.evaluations) =
        rs.flatMap Reply.spilled ++ List.range' 1 s'.state.evaluations ∧
      (∀ n ∈ rs.flatMap Reply.spilled, n = 1) ∧
      ((y.memory .evaluations).map (·.evaluations) = List.range' 1 s'.state.evaluations ↔
        ∀ r ∈ rs, r.spilled = []) := by
  have tried := run.tried.1
  rw [hz] at tried
  obtain ⟨s', hy, logged⟩ := logged_of_tried (logged_start unspent) tried
  have held : (y.memory .evaluations).map (·.evaluations) =
      rs.flatMap Reply.spilled ++ List.range' 1 s'.state.evaluations :=
    (run.numbers watched).trans logged.numbers
  refine ⟨s', hy, held, logged.first, ?_⟩
  rw [held, List.append_left_eq_self, List.flatMap_eq_nil_iff]

/-! ### A first generation that fails between its batches -/

/-- A compass search on a line, made ready and not yet evaluated. -/
def onePoint : Compass Float := ((standard 1).prepare none 1 (.number 1)).after

/-- The square of a coordinate, down at the second evaluation. -/
def downAtSecond : Objective Float where
  eval n x := if n = 1 then .error (.refused "call 2 failed") else .ok (x.map fun v => v * v).sum
  dimension := none

/-- The search at work on the objective, and a memory for its evaluations. -/
def watchedPoint : Session :=
  (Session.start (.compass onePoint) downAtSecond .empty).attach .evaluations (.memory #[])

/-- The conditions of `evaluations_numbered_iff` are met by a generation that fails at the
first probe and is tried again. -/
theorem evaluations_numbered_iff_watchedPoint :
    ∃ rs s', watchedPoint.Stepped rs ((watchedPoint.steps none 1).2.steps none 1).2 ∧
      ((watchedPoint.steps none 1).2.steps none 1).2.solver = .compass s' ∧
      (((watchedPoint.steps none 1).2.steps none 1).2.memory .evaluations).map (·.evaluations) =
        rs.flatMap Reply.spilled ++ List.range' 1 s'.state.evaluations := by
  have failed : failsInEvaluation (watchedPoint.solver.step watchedPoint.objective
      watchedPoint.calls).1.result = true := by decide +kernel
  obtain ⟨b, success⟩ := exists_ok_of_isOk
    (r := ((watchedPoint.steps none 1).2.solver.step (watchedPoint.steps none 1).2.objective
      (watchedPoint.steps none 1).2.calls).1.result) (by decide +kernel)
  have run := (Session.Stepped.start.stepped (ne_fault_of_test failed)).stepped
    (fun c h => by rw [success] at h; cases h)
  obtain ⟨s', hy, held, _⟩ := evaluations_numbered_iff onePoint watchedPoint _ rfl rfl rfl _ run
  exact ⟨_, s', run, hy, held⟩

/-- A log of a compass search is not always the counter spelled out.  The first generation
fails at its first probe and the counter is back at zero, but the start point stands in the
log; when the generation is tried again, the start point is recorded once more under the
same number. -/
theorem evaluations_not_numbered :
    onePoint.evaluated = false ∧ onePoint.state.evaluations = 0 ∧
      (∃ e, (watchedPoint.steps none 1).1 = .error e ∧ e.isEvaluationError = true) ∧
      (watchedPoint.steps none 1).2.solver.state.evaluations = 0 ∧
      ((watchedPoint.steps none 1).2.memory .evaluations).map (·.evaluations) = [1] ∧
      (∃ b, ((watchedPoint.steps none 1).2.steps none 1).1 = .ok b) ∧
      ((watchedPoint.steps none 1).2.steps none 1).2.solver.state.evaluations = 3 ∧
      (((watchedPoint.steps none 1).2.steps none 1).2.memory .evaluations).map (·.evaluations) =
        [1, 1, 2, 3] := by
  obtain ⟨e, failed, evaluation, _⟩ := exists_error_of_test
    (r := (watchedPoint.steps none 1).1) (by decide +kernel)
  refine ⟨rfl, rfl, ⟨e, failed, evaluation⟩, ?_, ?_, exists_ok_of_isOk (by decide +kernel), ?_, ?_⟩
  all_goals decide +kernel

end Compass
end BoxSearch

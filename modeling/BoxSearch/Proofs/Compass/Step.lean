import BoxSearch.Solver.Compass

/-!
# What a generation of a compass search leaves behind

A compass search is the simpler of the two solvers: a step that fails takes back
all that it did, so nothing is left of it, and it does not matter at which place it
failed.  What a step that succeeds has done is said once here.

* `step_error` — a step that fails leaves the search as it was.
* `step_ok` — a step that succeeds found the run ended already, or it probed around
  an evaluated point, moved, and asked whether the run stops.
-/

namespace BoxSearch
namespace Compass

variable {α : Type} [Scalar α]
variable {s : Compass α} {o : Objective α} {calls : Nat} {b : Bool} {e : SolverError}

/-! ## The pieces of a step -/

/-- The search with its run going. -/
def running (s : Compass α) : Compass α :=
  { s with state := { s.state with status := .running } }

/-- Why a search stops of itself: the mesh comes before the limits. -/
def ownReason? (s : Compass α) : Option String :=
  (if s.converged then some s.convergedReason else none).or (s.limits.reason? s.state)

/-- The search after the question whether the run ends was answered: the criterion's
reason comes before its own. -/
def concluded (s : Compass α) (reason : Option String) : Compass α :=
  match reason.or s.ownReason? with
  | some reason => { s with state := { s.state with status := .terminated reason } }
  | none => s

/-- The search with what a checkpoint of another one holds. -/
def rolledBack (t s : Compass α) : Compass α :=
  { t with state := s.state, steps := s.steps, evaluated := s.evaluated }

/-! ## Starting -/

theorem prepare_ok {box : Option (Box α)} {size : Nat} {seed : Seed}
    (h : (s.prepare box size seed).result = .ok ()) :
    ∃ steps population, (s.prepare box size seed).after =
      { s with box, steps, state := .start population, ready := true, evaluated := false,
               token := .fresh, watch := s.watch.map Watch.reset } := by
  unfold prepare at h ⊢
  by_cases hd : s.dim = 0
  · rw [if_pos hd] at h
    cases h
  · rw [if_neg hd] at h ⊢
    cases hc : Evolution.checkBox s.dim box with
    | error e => rw [hc] at h; cases h
    | ok u => exact ⟨_, _, rfl⟩

/-- A start point of the right dimension is taken before the drawn one is evaluated; it is
repaired and clipped. -/
theorem setInitialGuess_eq_ok {x : Point α} {t : Compass α} (h : s.setInitialGuess x = .ok t) :
    s.evaluated = false ∧ x.length = s.dim ∧
      t = { s with state := { s.state with
        population := s.state.population.setRow 0 (s.finish x)
        bestSolution := s.finish x } } := by
  unfold setInitialGuess at h
  split at h
  · cases h
  next moment =>
    split at h
    · cases h
    next length =>
      split at h
      · cases h
      split at h
      · cases h
      cases h
      have fresh : s.evaluated = false := by
        cases hs : s.evaluated with
        | false => rfl
        | true => exact absurd (by simp [hs]) moment
      exact ⟨fresh, Decidable.not_not.1 length, rfl⟩

theorem setInitialGuess_ok {x : Point α} {t : Compass α} (h : s.setInitialGuess x = .ok t) :
    ∃ population bestSolution,
      t = { s with state := { s.state with population, bestSolution } } := by
  obtain ⟨_, _, rfl⟩ := setInitialGuess_eq_ok h
  exact ⟨_, _, rfl⟩

/-! ## The start point -/

theorem evaluateStart_of_evaluated (h : s.evaluated = true) :
    s.evaluateStart o calls = (.done s () [], calls) := by
  rw [evaluateStart, if_pos h]

/-- What `evaluateStart` does when there is no start point. -/
theorem evaluateStart_of_empty (hs : s.evaluated = false) (hr : s.state.population.rows = []) :
    s.evaluateStart o calls = (.refuse s (.fault (.indexOutOfRange 0 0)), calls) := by
  simp only [evaluateStart, hs, Bool.false_eq_true, if_false, hr]

/-- What `evaluateStart` does when the batch of the start point fails. -/
theorem evaluateStart_of_batch_error {row : Point α} {rows : List (Point α)} {n : Nat}
    (hs : s.evaluated = false) (hr : s.state.population.rows = row :: rows)
    (hb : s.evaluateBatch o calls [s.finish row] = (.error e, n)) :
    s.evaluateStart o calls = (.refuse s e, n) := by
  simp only [evaluateStart, hs, Bool.false_eq_true, if_false, hr, hb]

/-- What `evaluateStart` does when the start point has its energy. -/
theorem evaluateStart_of_batch_ok {row : Point α} {rows : List (Point α)} {es : List Float}
    {n : Nat} (hs : s.evaluated = false) (hr : s.state.population.rows = row :: rows)
    (hb : s.evaluateBatch o calls [s.finish row] = (.ok es, n)) :
    (s.evaluateStart o calls).1.result = .ok () ∧
      (s.evaluateStart o calls).1.after = s.commitStart (s.finish row) (es.headD Double.nan) := by
  simp only [evaluateStart, hs, Bool.false_eq_true, if_false, hr, hb]
  exact ⟨rfl, rfl⟩

theorem evaluateStart_error (h : (s.evaluateStart o calls).1.result = .error e) :
    (s.evaluateStart o calls).1.after = s := by
  cases hs : s.evaluated with
  | true => rw [evaluateStart_of_evaluated hs] at h; cases h
  | false =>
      cases hr : s.state.population.rows with
      | nil => rw [evaluateStart_of_empty hs hr]; rfl
      | cons row rows =>
          rcases hb : s.evaluateBatch o calls [s.finish row] with ⟨e' | es, n⟩
          · rw [evaluateStart_of_batch_error hs hr hb]
            rfl
          · rw [(evaluateStart_of_batch_ok hs hr hb).1] at h
            cases h

/-- The start point has its energy: from before, or from a batch that succeeded. -/
theorem evaluateStart_ok (h : (s.evaluateStart o calls).1.result = .ok ()) :
    (s.evaluated = true ∧ (s.evaluateStart o calls).1.after = s) ∨
      (s.evaluated = false ∧ ∃ row rows es, s.state.population.rows = row :: rows ∧
        (s.evaluateBatch o calls [s.finish row]).1 = .ok es ∧
        (s.evaluateStart o calls).1.after =
          s.commitStart (s.finish row) (es.headD Double.nan)) := by
  cases hs : s.evaluated with
  | true => exact Or.inl ⟨rfl, by rw [evaluateStart_of_evaluated hs]; rfl⟩
  | false =>
      cases hr : s.state.population.rows with
      | nil => rw [evaluateStart_of_empty hs hr] at h; cases h
      | cons row rows =>
          rcases hb : s.evaluateBatch o calls [s.finish row] with ⟨e' | es, n⟩
          · rw [evaluateStart_of_batch_error hs hr hb] at h
            cases h
          · exact Or.inr ⟨rfl, row, rows, es, rfl, by rw [hb],
              (evaluateStart_of_batch_ok hs hr hb).2⟩

theorem evaluated_evaluateStart (h : (s.evaluateStart o calls).1.result = .ok ()) :
    (s.evaluateStart o calls).1.after.evaluated = true := by
  rcases evaluateStart_ok h with ⟨hs, ha⟩ | ⟨_, _, _, _, _, _, ha⟩
  · rw [ha, hs]
  · rw [ha]
    rfl

/-- The evaluation of the start point changes only what a step takes back. -/
theorem rolledBack_evaluateStart : (s.evaluateStart o calls).1.after.rolledBack s = s := by
  cases hr : (s.evaluateStart o calls).1.result with
  | error e => rw [evaluateStart_error hr]; rfl
  | ok u =>
      rcases evaluateStart_ok hr with ⟨_, ha⟩ | ⟨_, row, rows, es, _, _, ha⟩
      · rw [ha]; rfl
      · rw [ha]; rfl

/-! ## The question whether the run ends -/

/-- What `checkStop` does when the criterion has an answer. -/
theorem checkStop_of_askWatch {reason : Option String} {watch : Option Watch}
    (h : askWatch s.state s.watch = .ok (reason, watch)) :
    s.checkStop.result = .ok (reason.or s.ownReason?).isSome ∧
      s.checkStop.after = ({ s with watch } : Compass α).concluded reason := by
  have hown : (if ({ s with watch } : Compass α).converged
      then some ({ s with watch } : Compass α).convergedReason else none).or
        (s.limits.reason? s.state) = s.ownReason? := rfl
  have hown' : ({ s with watch } : Compass α).ownReason? = s.ownReason? := rfl
  unfold checkStop concluded
  simp only [h, hown, hown']
  cases reason.or s.ownReason? with
  | none => exact ⟨rfl, rfl⟩
  | some r => exact ⟨rfl, rfl⟩

theorem checkStop_of_askWatch_error (h : askWatch s.state s.watch = .error e) :
    s.checkStop = .refuse s e := by
  unfold checkStop
  rw [h]

theorem checkStop_ok (h : s.checkStop.result = .ok b) :
    ∃ reason watch, askWatch s.state s.watch = .ok (reason, watch) ∧
      b = (reason.or s.ownReason?).isSome ∧
      s.checkStop.after = ({ s with watch } : Compass α).concluded reason := by
  cases ha : askWatch s.state s.watch with
  | error e => rw [checkStop_of_askWatch_error ha] at h; cases h
  | ok p =>
      obtain ⟨reason, watch⟩ := p
      obtain ⟨hr, hs⟩ := checkStop_of_askWatch ha
      rw [hr] at h
      cases h
      exact ⟨reason, watch, rfl, rfl, hs⟩

theorem evaluated_checkStop : s.checkStop.after.evaluated = s.evaluated := by
  unfold checkStop
  cases askWatch s.state s.watch with
  | error e => rfl
  | ok answer =>
      obtain ⟨reason, watch⟩ := answer
      dsimp only
      split <;> rfl

/-! ## A generation of probes -/

/-- What `explore` does when the probes cannot be made. -/
theorem explore_of_probes_error {c : Fault} (hp : s.probes = .error c) :
    s.explore o calls = (.refuse s (.fault c), calls) := by
  simp only [explore, hp]

/-- What `explore` does when the batch of probes fails. -/
theorem explore_of_batch_error {points : List (Point α)} {n : Nat} (hp : s.probes = .ok points)
    (hb : s.evaluateBatch o calls points = (.error e, n)) :
    s.explore o calls = (.refuse s e, n) := by
  simp only [explore, hp, hb]

/-- What `explore` does when the probes have their energies. -/
theorem explore_of_batch_ok {points : List (Point α)} {es : List Float} {n : Nat}
    (hp : s.probes = .ok points) (hb : s.evaluateBatch o calls points = (.ok es, n)) :
    (s.explore o calls).1.result = (s.move points es).checkStop.result ∧
      (s.explore o calls).1.after = (s.move points es).checkStop.after := by
  simp only [explore, hp, hb]
  exact ⟨rfl, rfl⟩

theorem evaluated_move (points : List (Point α)) (es : List Float) :
    (s.move points es).evaluated = s.evaluated := by
  simp only [move]
  split <;> rfl

theorem generation_move (points : List (Point α)) (es : List Float) :
    (s.move points es).state.generation = s.state.generation + 1 := by
  simp only [move]
  split <;> rfl

theorem rolledBack_move (points : List (Point α)) (es : List Float) (t : Compass α) :
    (s.move points es).rolledBack t = s.rolledBack t := by
  simp only [move]
  split <;> rfl

theorem explore_ok (h : (s.explore o calls).1.result = .ok b) :
    ∃ points es, s.probes = .ok points ∧ (s.evaluateBatch o calls points).1 = .ok es ∧
      (s.move points es).checkStop.result = .ok b ∧
      (s.explore o calls).1.after = (s.move points es).checkStop.after := by
  cases hp : s.probes with
  | error c => rw [explore_of_probes_error hp] at h; cases h
  | ok points =>
      rcases hb : s.evaluateBatch o calls points with ⟨e' | es, n⟩
      · rw [explore_of_batch_error hp hb] at h
        cases h
      · obtain ⟨hr, ha⟩ := explore_of_batch_ok hp hb
        exact ⟨points, es, rfl, by rw [hb], hr ▸ h, ha⟩

/-- Probes that fail, at whatever place, have changed only what a step takes back. -/
theorem rolledBack_explore (h : (s.explore o calls).1.result = .error e) (t : Compass α) :
    (s.explore o calls).1.after.rolledBack t = s.rolledBack t := by
  cases hp : s.probes with
  | error c => rw [explore_of_probes_error hp]; rfl
  | ok points =>
      rcases hb : s.evaluateBatch o calls points with ⟨e' | es, n⟩
      · rw [explore_of_batch_error hp hb]
        rfl
      · obtain ⟨hr, ha⟩ := explore_of_batch_ok hp hb
        cases hw : askWatch (s.move points es).state (s.move points es).watch with
        | ok p => rw [hr, (checkStop_of_askWatch hw).1] at h; cases h
        | error e' =>
            rw [ha, checkStop_of_askWatch_error hw]
            exact rolledBack_move points es t

/-! ## A step -/

theorem advance_of_refused (hc : s.checkReady o = .error e) :
    s.advance o calls = (.refuse s e, calls) := by
  unfold advance
  rw [hc]

theorem advance_of_ended (hc : s.checkReady o = .ok ()) (ended : s.state.isTerminated = true) :
    s.advance o calls = (.done s true [], calls) := by
  unfold advance
  rw [hc]
  exact if_pos ended

theorem advance_of_start_error (hc : s.checkReady o = .ok ())
    (going : s.state.isTerminated = false)
    (hf : (s.evaluateStart o calls).1.result = .error e) :
    (s.advance o calls).1.result = .error e ∧ (s.advance o calls).1.after = s := by
  have ha := evaluateStart_error hf
  unfold advance
  simp only [hc, going]
  rcases hx : s.evaluateStart o calls with ⟨⟨r, t, events⟩, n⟩
  simp only [hx] at hf ha
  subst hf ha
  exact ⟨rfl, rfl⟩

theorem advance_of_start_ok (hc : s.checkReady o = .ok ())
    (going : s.state.isTerminated = false)
    (hf : (s.evaluateStart o calls).1.result = .ok ()) :
    ∃ n, (s.advance o calls).1.result =
        ((s.evaluateStart o calls).1.after.running.explore o n).1.result ∧
      (s.advance o calls).1.after =
        ((s.evaluateStart o calls).1.after.running.explore o n).1.after := by
  unfold advance
  simp only [hc, going]
  rcases hx : s.evaluateStart o calls with ⟨⟨r, t, events⟩, n⟩
  simp only [hx] at hf
  subst hf
  exact ⟨n, rfl, rfl⟩

theorem rolledBack_advance (h : (s.advance o calls).1.result = .error e) :
    (s.advance o calls).1.after.rolledBack s = s := by
  rcases hc : s.checkReady o with e' | u
  · rw [advance_of_refused hc]
    rfl
  · cases going : s.state.isTerminated with
    | true => rw [advance_of_ended hc going] at h; cases h
    | false =>
        cases hf : (s.evaluateStart o calls).1.result with
        | error e' => rw [(advance_of_start_error hc going hf).2]; rfl
        | ok u =>
            obtain ⟨n, hr, ha⟩ := advance_of_start_ok hc going hf
            rw [hr] at h
            rw [ha, rolledBack_explore h]
            exact rolledBack_evaluateStart

theorem step_of_advance_ok (h : (s.advance o calls).1.result = .ok b) :
    s.step o calls = s.advance o calls := by
  unfold step
  simp only [h]

theorem step_of_ended (hc : s.checkReady o = .ok ()) (ended : s.state.isTerminated = true) :
    s.step o calls = (.done s true [], calls) := by
  have ha : s.advance o calls = (.done s true [], calls) := advance_of_ended hc ended
  have hr : (s.advance o calls).1.result = .ok true := by rw [ha]; rfl
  rw [step_of_advance_ok hr, ha]

theorem step_of_advance_error (h : (s.advance o calls).1.result = .error e) :
    (s.step o calls).1.result = .error e ∧
      (s.step o calls).1.after = (s.advance o calls).1.after.rolledBack s := by
  unfold step
  simp only [h]
  exact ⟨trivial, rfl⟩

theorem step_result : (s.step o calls).1.result = (s.advance o calls).1.result := by
  cases h : (s.advance o calls).1.result with
  | ok b => rw [step_of_advance_ok h, h]
  | error e => exact (step_of_advance_error h).1

theorem events_step : (s.step o calls).1.events = (s.advance o calls).1.events := by
  cases h : (s.advance o calls).1.result with
  | ok b => rw [step_of_advance_ok h]
  | error e =>
      unfold step
      simp only [h]

/-- **What a failed step leaves behind**: the search as it was. -/
theorem step_error (h : (s.step o calls).1.result = .error e) : (s.step o calls).1.after = s := by
  rw [step_result] at h
  rw [(step_of_advance_error h).2, rolledBack_advance h]

/-- **What a successful step leaves behind.**  Either the run had ended already, or
the search moved by the probes around an evaluated point. -/
theorem step_ok (h : (s.step o calls).1.result = .ok b) :
    s.checkReady o = .ok () ∧
      ((s.state.isTerminated = true ∧ b = true ∧ (s.step o calls).1.after = s) ∨
        s.state.isTerminated = false ∧ (s.evaluateStart o calls).1.result = .ok () ∧
          ∃ t points es n, t = (s.evaluateStart o calls).1.after.running ∧
            t.probes = .ok points ∧ (t.evaluateBatch o n points).1 = .ok es ∧
            (t.move points es).checkStop.result = .ok b ∧
            (s.step o calls).1.after = (t.move points es).checkStop.after) := by
  rw [step_result] at h
  rw [step_of_advance_ok h]
  rcases hc : s.checkReady o with e' | u
  · rw [advance_of_refused hc] at h
    cases h
  · refine ⟨rfl, ?_⟩
    cases going : s.state.isTerminated with
    | true =>
        rw [advance_of_ended hc going] at h ⊢
        cases h
        exact Or.inl ⟨rfl, rfl, rfl⟩
    | false =>
        refine Or.inr ⟨rfl, ?_⟩
        cases hf : (s.evaluateStart o calls).1.result with
        | error e' => rw [(advance_of_start_error hc going hf).1] at h; cases h
        | ok u =>
            obtain ⟨n, hr, ha⟩ := advance_of_start_ok hc going hf
            rw [hr] at h
            obtain ⟨points, es, hp, hb, hs, ha'⟩ := explore_ok h
            exact ⟨rfl, _, points, es, n, rfl, hp, hb, hs, ha.trans ha'⟩

end Compass
end BoxSearch

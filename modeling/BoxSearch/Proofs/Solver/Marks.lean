import BoxSearch.Proofs.Compass.Step
import BoxSearch.Proofs.Ensemble.Step
import BoxSearch.Proofs.Evolution.Growth

/-!
# Token and status have no part in a generation

A request to stop leaves two marks on a solver: its token, and the status that says that
the request was seen.  A generation reads neither of them, as long as the run has not
ended, and writes a status of its own.  So a solver that was stopped and goes on makes
the same generation as one that was not.

`step_marked` says this of a step of any solver, with any objective and whatever its
result; it is proved family by family, along the pieces of a step.  With the solver's own
marks it also says that a step leaves the token alone (`token_step`).

`step_going` and `step_ended` are the two kinds of successful steps as far as the number
of generations goes: one generation, or none once the run has ended.
-/

namespace BoxSearch

/-! ## Differential evolution -/

namespace Evolution

variable {α : Type} [Scalar α]
variable {s : Evolution α} {o : Objective α} {m : EvaluationMap α} {strategy : Strategy α}
variable {token : CancelToken} {status : Status} {calls : Nat} {b : Bool}

/-- The solver with another token. -/
def withToken (token : CancelToken) (s : Evolution α) : Evolution α := { s with token }

/-- The solver with another token and another status. -/
def marked (token : CancelToken) (status : Status) (s : Evolution α) : Evolution α :=
  { s with token, state := { s.state with status } }

theorem evaluateFirst_marked :
    (s.marked token status).evaluateFirst m o calls =
      ((s.evaluateFirst m o calls).1.lift (marked token status),
        (s.evaluateFirst m o calls).2) := by
  have hf : (s.marked token status).evaluated = s.evaluated := rfl
  cases hs : s.evaluated with
  | true =>
      rw [evaluateFirst_of_evaluated hs, evaluateFirst_of_evaluated (hf.trans hs)]
      rfl
  | false =>
      have hb' : (s.marked token status).evaluateBatch m o calls
          ((s.marked token status).state.population.rows.map (s.marked token status).finish) =
        s.evaluateBatch m o calls (s.state.population.rows.map s.finish) := rfl
      simp only [evaluateFirst, hf, hs, Bool.false_eq_true, if_false, hb']
      rcases s.evaluateBatch m o calls (s.state.population.rows.map s.finish) with ⟨e | es, n⟩
      · rfl
      · rfl

theorem trials_withToken (targets : List Nat) (g : Generator) :
    (s.withToken token).trials strategy targets g = s.trials strategy targets g :=
  trials_congr (s := s) (t := s.withToken token) (fun _ => rfl) (fun _ _ => rfl) targets g

theorem checkStop_withToken :
    (s.withToken token).checkStop = s.checkStop.lift (withToken token) := by
  unfold checkStop
  have ha : askWatch (s.withToken token).state (s.withToken token).watch =
    askWatch s.state s.watch := rfl
  rw [ha]
  cases askWatch s.state s.watch with
  | error e => rfl
  | ok answer =>
      obtain ⟨reason, watch⟩ := answer
      have hl : ({ s.withToken token with watch } : Evolution α).limits.reason?
          ({ s.withToken token with watch } : Evolution α).state =
        s.limits.reason? s.state := rfl
      simp only [hl]
      cases reason.or (s.limits.reason? s.state) <;> rfl

theorem commitGeneration_withToken (trials : List (Point α × Float)) :
    (s.withToken token).commitGeneration trials =
      (s.commitGeneration trials).lift (withToken token) := by
  unfold commitGeneration
  exact congrArg (Reply.preceded · _) (checkStop_withToken (s := { s with state := _ }))

theorem evolve_withToken :
    (s.withToken token).evolve strategy m o calls =
      ((s.evolve strategy m o calls).1.lift (withToken token),
        (s.evolve strategy m o calls).2) := by
  have hs : (s.withToken token).state = s.state := rfl
  have hg : (s.withToken token).generator = s.generator := rfl
  simp only [evolve, trials_withToken, hs, hg]
  rcases s.trials strategy (List.range s.state.population.size) s.generator with e | ⟨points, g⟩
  · rfl
  have hb : (s.withToken token).evaluateBatch m o calls points =
    s.evaluateBatch m o calls points := rfl
  simp only [hb]
  rcases s.evaluateBatch m o calls points with ⟨e | es, n⟩
  · rfl
  exact congrArg (·, n) (commitGeneration_withToken (s := { s with generator := g }) _)

/-- A step does not read token and status: it keeps the one and overwrites the other, or
nothing has happened. -/
theorem step_marked (o : Objective α) (calls : Nat) (going : s.state.isTerminated = false)
    (hst : status.isTerminated = false) :
    ((s.marked token status).step o calls).1.result = (s.step o calls).1.result ∧
      ((s.marked token status).step o calls).2 = (s.step o calls).2 ∧
      (((s.marked token status).step o calls).1.after = (s.step o calls).1.after.withToken token ∨
        (s.step o calls).1.result.isOk = false ∧ (s.step o calls).1.after = s ∧
          ((s.marked token status).step o calls).1.after = s.marked token status) := by
  have hc : (s.marked token status).checkReady o = s.checkReady o := rfl
  have going' : (s.marked token status).state.isTerminated = false := hst
  unfold step
  rw [hc]
  rcases s.checkReady o with e | ⟨strategy, m⟩
  · exact ⟨rfl, rfl, Or.inr ⟨rfl, rfl, rfl⟩⟩
  simp only [going, going', Bool.false_eq_true, if_false, evaluateFirst_marked]
  cases hf : (s.evaluateFirst m o calls).1.result with
  | error e =>
      have unchanged := evaluateFirst_error hf
      rcases hx : s.evaluateFirst m o calls with ⟨⟨r, t, events⟩, n⟩
      rw [hx] at hf unchanged
      cases hf
      cases unchanged
      exact ⟨rfl, rfl, Or.inr ⟨rfl, rfl, rfl⟩⟩
  | ok u =>
      rcases hx : s.evaluateFirst m o calls with ⟨⟨r, t, events⟩, n⟩
      rw [hx] at hf
      cases hf
      have hevolve : (t.marked token status).running.evolve strategy m o n = _ :=
        evolve_withToken (s := t.running)
      unfold running at hevolve
      simp only [Reply.lift, hevolve]
      exact ⟨rfl, trivial, Or.inl rfl⟩

/-- The answer to the question whether the run ends is the status of the solver that goes
on from it. -/
theorem concluded_going (reason : Option String) (going : s.state.isTerminated = false) :
    (s.concluded reason).state.generation = s.state.generation ∧
      (s.concluded reason).state.isTerminated = (reason.or (s.limits.reason? s.state)).isSome := by
  unfold concluded
  cases reason.or (s.limits.reason? s.state) with
  | none => exact ⟨rfl, going⟩
  | some text => exact ⟨rfl, rfl⟩

theorem step_of_isTerminated (o : Objective α) (calls : Nat)
    (ended : s.state.isTerminated = true) :
    (s.step o calls).1.after = s ∧ (s.step o calls).1.result ≠ .ok false := by
  rcases hc : s.checkReady o with e | ⟨strategy, m⟩
  · rw [step_of_refused hc]
    exact ⟨rfl, nofun⟩
  · rw [step_of_ended hc ended]
    exact ⟨rfl, nofun⟩

/-- A step that succeeds commits one generation, and says whether the run has ended. -/
theorem step_going (going : s.state.isTerminated = false)
    (h : (s.step o calls).1.result = .ok b) :
    (s.step o calls).1.after.state.generation = s.state.generation + 1 ∧
      (s.step o calls).1.after.state.isTerminated = b := by
  obtain ⟨_, m, _, ⟨ended, _⟩ | ⟨_, _, t, points, g, es, n, rfl, _, _, hs, ha⟩⟩ := step_ok h
  · rw [going] at ended
    cases ended
  · obtain ⟨reason, watch, _, rfl, hc⟩ := checkStop_ok hs
    have hgen := (@evaluateFirst_frame _ _ s o m calls).2
    have on : ({ (s.evaluateFirst m o calls).1.after.running.bred points g es with watch } :
      Evolution α).state.isTerminated = false := rfl
    rw [ha, hc]
    obtain ⟨hg, he⟩ := concluded_going reason on
    refine ⟨hg.trans ?_, he⟩
    show (s.evaluateFirst m o calls).1.after.state.generation + 1 = _
    rw [hgen]

end Evolution

/-! ## Compass search -/

namespace Compass

variable {α : Type} [Scalar α]
variable {s : Compass α} {o : Objective α} {token : CancelToken} {status : Status} {calls : Nat}
variable {b : Bool}

/-- The search with another token. -/
def withToken (token : CancelToken) (s : Compass α) : Compass α := { s with token }

/-- The search with another token and another status. -/
def marked (token : CancelToken) (status : Status) (s : Compass α) : Compass α :=
  { s with token, state := { s.state with status } }

theorem evaluateStart_marked :
    (s.marked token status).evaluateStart o calls =
      ((s.evaluateStart o calls).1.lift (marked token status), (s.evaluateStart o calls).2) := by
  have hf : (s.marked token status).evaluated = s.evaluated := rfl
  have hrows : (s.marked token status).state.population.rows = s.state.population.rows := rfl
  cases hs : s.evaluated with
  | true =>
      rw [evaluateStart_of_evaluated hs, evaluateStart_of_evaluated (hf.trans hs)]
      rfl
  | false =>
      simp only [evaluateStart, hf, hs, Bool.false_eq_true, if_false, hrows]
      cases s.state.population.rows with
      | nil => rfl
      | cons row rows =>
          have hb : (s.marked token status).evaluateBatch o calls
              [(s.marked token status).finish row] =
            s.evaluateBatch o calls [s.finish row] := rfl
          simp only [hb]
          rcases s.evaluateBatch o calls [s.finish row] with ⟨e | es, n⟩ <;> rfl

theorem checkStop_withToken :
    (s.withToken token).checkStop = s.checkStop.lift (withToken token) := by
  unfold checkStop
  have ha : askWatch (s.withToken token).state (s.withToken token).watch =
    askWatch s.state s.watch := rfl
  rw [ha]
  cases askWatch s.state s.watch with
  | error e => rfl
  | ok answer =>
      obtain ⟨reason, watch⟩ := answer
      have hown : ({ s.withToken token with watch } : Compass α).ownReason? = s.ownReason? := rfl
      have hown' : ({ s with watch } : Compass α).ownReason? = s.ownReason? := rfl
      unfold ownReason? at hown hown'
      simp only [hown, hown']
      cases reason.or ((if s.converged then some s.convergedReason else none).or
        (s.limits.reason? s.state)) <;> rfl

theorem move_withToken (points : List (Point α)) (es : List Float) :
    (s.withToken token).move points es = (s.move points es).withToken token := by
  have hs : (s.withToken token).state = s.state := rfl
  simp only [move, hs]
  split <;> rfl

theorem explore_withToken :
    (s.withToken token).explore o calls =
      ((s.explore o calls).1.lift (withToken token), (s.explore o calls).2) := by
  have hp : (s.withToken token).probes = s.probes := rfl
  simp only [explore, hp]
  cases s.probes with
  | error c => rfl
  | ok points =>
      have hb : (s.withToken token).evaluateBatch o calls points =
        s.evaluateBatch o calls points := rfl
      simp only [hb]
      rcases s.evaluateBatch o calls points with ⟨e | es, n⟩
      · rfl
      · simp only [commitGeneration, move_withToken, checkStop_withToken]
        rfl

/-- What `advance` does does not depend on token and status, but that it hands the token
on. -/
theorem advance_marked (o : Objective α) (calls : Nat) (going : s.state.isTerminated = false)
    (hst : status.isTerminated = false) :
    ((s.marked token status).advance o calls).1.result = (s.advance o calls).1.result ∧
      ((s.marked token status).advance o calls).2 = (s.advance o calls).2 ∧
      (((s.marked token status).advance o calls).1.after =
          (s.advance o calls).1.after.withToken token ∨
        (s.advance o calls).1.result.isOk = false ∧ (s.advance o calls).1.after = s ∧
          ((s.marked token status).advance o calls).1.after = s.marked token status) := by
  have hc : (s.marked token status).checkReady o = s.checkReady o := rfl
  have going' : (s.marked token status).state.isTerminated = false := hst
  unfold advance
  rw [hc]
  rcases s.checkReady o with e | u
  · exact ⟨rfl, rfl, Or.inr ⟨rfl, rfl, rfl⟩⟩
  simp only [going, going', Bool.false_eq_true, if_false, evaluateStart_marked]
  cases hf : (s.evaluateStart o calls).1.result with
  | error e =>
      have unchanged := evaluateStart_error hf
      rcases hx : s.evaluateStart o calls with ⟨⟨r, t, events⟩, n⟩
      rw [hx] at hf unchanged
      cases hf
      cases unchanged
      exact ⟨rfl, rfl, Or.inr ⟨rfl, rfl, rfl⟩⟩
  | ok u =>
      rcases hx : s.evaluateStart o calls with ⟨⟨r, t, events⟩, n⟩
      rw [hx] at hf
      cases hf
      have hexplore : (t.marked token status).running.explore o n = _ :=
        explore_withToken (s := t.running)
      unfold running at hexplore
      simp only [Reply.lift, hexplore]
      exact ⟨rfl, trivial, Or.inl rfl⟩

theorem step_calls : (s.step o calls).2 = (s.advance o calls).2 := by
  unfold step
  cases h : (s.advance o calls).1.result with
  | ok b => simp only [h]
  | error e => simp only [h]

theorem step_marked (o : Objective α) (calls : Nat) (going : s.state.isTerminated = false)
    (hst : status.isTerminated = false) :
    ((s.marked token status).step o calls).1.result = (s.step o calls).1.result ∧
      ((s.marked token status).step o calls).2 = (s.step o calls).2 ∧
      (((s.marked token status).step o calls).1.after = (s.step o calls).1.after.withToken token ∨
        (s.step o calls).1.result.isOk = false ∧ (s.step o calls).1.after = s ∧
          ((s.marked token status).step o calls).1.after = s.marked token status) := by
  obtain ⟨hr, hn, ha⟩ := advance_marked o calls going hst
  have hr' : ((s.marked token status).step o calls).1.result = (s.step o calls).1.result := by
    rw [step_result, step_result, hr]
  refine ⟨hr', by rw [step_calls, step_calls, hn], ?_⟩
  cases hres : (s.step o calls).1.result with
  | error e =>
      rw [hres] at hr'
      exact Or.inr ⟨rfl, step_error hres, step_error hr'⟩
  | ok b =>
      rw [hres] at hr'
      have hadv : (s.advance o calls).1.result = .ok b := by rw [← step_result, hres]
      have hadv' : ((s.marked token status).advance o calls).1.result = .ok b := by
        rw [← step_result, hr']
      rcases ha with ha | ⟨failed, _⟩
      · refine Or.inl ?_
        rw [step_of_advance_ok hadv, step_of_advance_ok hadv', ha]
      · rw [hadv] at failed
        cases failed

theorem concluded_going (reason : Option String) (going : s.state.isTerminated = false) :
    (s.concluded reason).state.generation = s.state.generation ∧
      (s.concluded reason).state.isTerminated = (reason.or s.ownReason?).isSome := by
  unfold concluded
  cases reason.or s.ownReason? with
  | none => exact ⟨rfl, going⟩
  | some text => exact ⟨rfl, rfl⟩

theorem step_of_isTerminated (o : Objective α) (calls : Nat)
    (ended : s.state.isTerminated = true) :
    (s.step o calls).1.after = s ∧ (s.step o calls).1.result ≠ .ok false := by
  rcases hc : s.checkReady o with e | u
  · have hr : (s.step o calls).1.result = .error e := by
      rw [step_result, advance_of_refused hc]
      rfl
    exact ⟨step_error hr, by rw [hr]; nofun⟩
  · rw [step_of_ended hc ended]
    exact ⟨rfl, nofun⟩

theorem generation_evaluateStart :
    (s.evaluateStart o calls).1.after.state.generation = s.state.generation := by
  cases hr : (s.evaluateStart o calls).1.result with
  | error e => rw [evaluateStart_error hr]
  | ok u =>
      rcases evaluateStart_ok hr with ⟨_, ha⟩ | ⟨_, _, _, _, _, _, ha⟩
      · rw [ha]
      · rw [ha]
        rfl

theorem move_frame (points : List (Point α)) (es : List Float) :
    (s.move points es).state.generation = s.state.generation + 1 ∧
      (s.move points es).state.status = s.state.status := by
  simp only [move]
  split <;> exact ⟨rfl, rfl⟩

theorem step_going (going : s.state.isTerminated = false)
    (h : (s.step o calls).1.result = .ok b) :
    (s.step o calls).1.after.state.generation = s.state.generation + 1 ∧
      (s.step o calls).1.after.state.isTerminated = b := by
  obtain ⟨_, ⟨ended, _⟩ | ⟨_, _, t, points, es, n, rfl, _, _, hs, ha⟩⟩ := step_ok h
  · rw [going] at ended
    cases ended
  · obtain ⟨reason, watch, _, rfl, hc⟩ := checkStop_ok hs
    obtain ⟨hgen, hstatus⟩ := move_frame (s := running _) points es
    have on : (({ move (running _) points es with watch } : Compass α)).state.isTerminated = false :=
      congrArg Status.isTerminated hstatus
    rw [ha, hc]
    obtain ⟨hg, he⟩ := concluded_going reason on
    refine ⟨(hg.trans hgen).trans ?_, he⟩
    show (s.evaluateStart o calls).1.after.state.generation + 1 = _
    rw [generation_evaluateStart]

end Compass

/-! ## Ensembles -/

namespace Frame

variable {α : Type} [Scalar α]
variable {f : Frame α} {token : CancelToken} {status : Status}

/-- The frame with another token. -/
def withToken (token : CancelToken) (f : Frame α) : Frame α := { f with token }

/-- The frame with another token and another status. -/
def marked (token : CancelToken) (status : Status) (f : Frame α) : Frame α :=
  { f with token, state := { f.state with status } }

theorem checkStop_withToken :
    (f.withToken token).checkStop = f.checkStop.lift (withToken token) := by
  unfold checkStop
  have ha : askWatch (f.withToken token).state (f.withToken token).watch =
    askWatch f.state f.watch := rfl
  rw [ha]
  cases askWatch f.state f.watch with
  | error e => rfl
  | ok answer =>
      obtain ⟨reason, watch⟩ := answer
      have hown : ({ f.withToken token with watch } : Frame α).ownReason? = f.ownReason? := rfl
      have hown' : ({ f with watch } : Frame α).ownReason? = f.ownReason? := rfl
      unfold ownReason? at hown hown'
      simp only [hown, hown']
      cases reason.or ((if f.stopped.all id then some "All members stopped" else none).or
        (f.limits.reason? f.state)) <;> rfl

theorem isTerminated_concluded (reason : Option String) (going : f.state.isTerminated = false) :
    (f.concluded reason).state.isTerminated = (reason.or f.ownReason?).isSome := by
  unfold concluded
  cases reason.or f.ownReason? with
  | none => exact going
  | some text => rfl

theorem conclude_marked (stopped : List Bool) (states : List (State α)) :
    (f.marked token status).conclude stopped states =
      (f.conclude stopped states).lift (withToken token) := by
  unfold conclude
  exact congrArg (Reply.preceded · _)
    (checkStop_withToken (f := { f with stopped, state := _ }))

end Frame

/-! ## Solvers -/

namespace Solver

variable {α : Type} [Scalar α]
variable {s : Solver α} {f : Frame α} {o : Objective α}
variable {token : CancelToken} {status : Status} {calls : Nat} {b : Bool}

/-- The solver with another token and another status. -/
def marked (token : CancelToken) (status : Status) (s : Solver α) : Solver α :=
  (s.setToken token).setState { s.state with status }

theorem marked_self (s : Solver α) : s.marked s.token s.state.status = s := by
  cases s <;> rfl

@[simp]
theorem marked_marked {token' : CancelToken} {status' : Status} :
    (s.marked token status).marked token' status' = s.marked token' status' := by
  cases s <;> rfl

@[simp]
theorem token_marked : (s.marked token status).token = token := by
  cases s <;> rfl

@[simp]
theorem status_marked : (s.marked token status).state.status = status := by
  cases s <;> rfl

theorem setToken_eq_marked (s : Solver α) (token : CancelToken) :
    s.setToken token = s.marked token s.state.status := by
  cases s <;> rfl

theorem markCancelled_eq_marked (s : Solver α) : s.markCancelled = s.marked s.token .cancelled := by
  cases s <;> rfl

theorem stepEnsemble_marked (build : Builder α) (members : List (Solver α))
    (moves : List (Dispatch.Move (Solver α) α)) (o : Objective α) (calls : Nat)
    (going : f.state.isTerminated = false)
    (hst : status.isTerminated = false) :
    (stepEnsemble (f.marked token status) build members moves o calls).1.result =
        (stepEnsemble f build members moves o calls).1.result ∧
      (stepEnsemble (f.marked token status) build members moves o calls).2 =
        (stepEnsemble f build members moves o calls).2 ∧
      ((stepEnsemble (f.marked token status) build members moves o calls).1.after =
          (stepEnsemble f build members moves o calls).1.after.setToken token ∨
        (stepEnsemble f build members moves o calls).1.result.isOk = false ∧
          ∃ ms, (stepEnsemble f build members moves o calls).1.after = .ensemble f build ms ∧
            (stepEnsemble (f.marked token status) build members moves o calls).1.after =
              .ensemble (f.marked token status) build ms) := by
  have hc : (f.marked token status).checkReady o = f.checkReady o := rfl
  have going' : (f.marked token status).state.isTerminated = false := hst
  have hmap : (f.marked token status).map = f.map := rfl
  have hstopped : (f.marked token status).stopped = f.stopped := rfl
  unfold stepEnsemble
  rw [hc]
  rcases f.checkReady o with e | u
  · exact ⟨rfl, rfl, Or.inr ⟨rfl, members, rfl, rfl⟩⟩
  simp only [going, going', Bool.false_eq_true, if_false, hmap, hstopped]
  split
  · exact ⟨rfl, rfl, Or.inr ⟨rfl, _, rfl, rfl⟩⟩
  · simp only [Frame.conclude_marked]
    exact ⟨rfl, trivial, Or.inl rfl⟩

/-- **A step does not read token and status.**  From a solver whose run goes on, with
whatever token and whatever status that does not end the run: the result is the same, the
evaluations are the same, and so is the solver afterwards, but for the token and, after a
failure that took everything back, the status. -/
theorem step_marked (s : Solver α) (token : CancelToken) (o : Objective α) (calls : Nat)
    (going : s.state.isTerminated = false) (hst : status.isTerminated = false) :
    ((s.marked token status).step o calls).1.result = (s.step o calls).1.result ∧
      ((s.marked token status).step o calls).2 = (s.step o calls).2 ∧
      (((s.marked token status).step o calls).1.after = (s.step o calls).1.after.setToken token ∨
        (s.step o calls).1.result.isOk = false ∧
          (s.step o calls).1.after.state.status = s.state.status ∧
          ((s.marked token status).step o calls).1.after =
            (s.step o calls).1.after.marked token status) := by
  cases s with
  | evolution s =>
      obtain ⟨hr, hn, ha | ⟨failed, ha, ha'⟩⟩ :=
        Evolution.step_marked (s := s) o calls going hst
      · exact ⟨hr, hn, Or.inl (congrArg Solver.evolution ha)⟩
      · have hs : Solver.evolution (s.step o calls).1.after = .evolution s := congrArg _ ha
        have hs' : Solver.evolution ((s.marked token status).step o calls).1.after =
          (Solver.evolution s).marked token status := congrArg _ ha'
        exact ⟨hr, hn, Or.inr ⟨failed, congrArg (·.state.status) hs,
          hs'.trans (congrArg (marked token status) hs.symm)⟩⟩
  | compass s =>
      obtain ⟨hr, hn, ha | ⟨failed, ha, ha'⟩⟩ :=
        Compass.step_marked (s := s) o calls going hst
      · exact ⟨hr, hn, Or.inl (congrArg Solver.compass ha)⟩
      · have hs : Solver.compass (s.step o calls).1.after = .compass s := congrArg _ ha
        have hs' : Solver.compass ((s.marked token status).step o calls).1.after =
          (Solver.compass s).marked token status := congrArg _ ha'
        exact ⟨hr, hn, Or.inr ⟨failed, congrArg (·.state.status) hs,
          hs'.trans (congrArg (marked token status) hs.symm)⟩⟩
  | ensemble f build members =>
      obtain ⟨hr, hn, ha | ⟨failed, ms, ha, ha'⟩⟩ :=
        stepEnsemble_marked build members (Solver.moves o members) o calls going hst
      · exact ⟨hr, hn, Or.inl ha⟩
      · have hs : ((Solver.ensemble f build members).step o calls).1.after =
          .ensemble f build ms := ha
        exact ⟨hr, hn, Or.inr ⟨failed, congrArg (·.state.status) hs,
          ha'.trans (congrArg (marked token status) hs.symm)⟩⟩

/-- A step of a run that has ended changes nothing. -/
theorem step_of_isTerminated (o : Objective α) (calls : Nat)
    (ended : s.state.isTerminated = true) :
    (s.step o calls).1.after = s ∧ (s.step o calls).1.result ≠ .ok false := by
  cases s with
  | evolution s =>
      obtain ⟨ha, hr⟩ := Evolution.step_of_isTerminated o calls ended
      exact ⟨congrArg Solver.evolution ha, hr⟩
  | compass s =>
      obtain ⟨ha, hr⟩ := Compass.step_of_isTerminated o calls ended
      exact ⟨congrArg Solver.compass ha, hr⟩
  | ensemble f build members =>
      show (stepEnsemble f build members (Solver.moves o members) o calls).1.after = _ ∧
        (stepEnsemble f build members (Solver.moves o members) o calls).1.result ≠ _
      rcases hc : f.checkReady o with e | u
      · rw [stepEnsemble_of_refused hc]
        exact ⟨rfl, nofun⟩
      · rw [stepEnsemble_of_ended hc ended]
        exact ⟨rfl, nofun⟩

/-- **A step that succeeds commits one generation**, and says whether the run has
ended. -/
theorem step_going (going : s.state.isTerminated = false)
    (h : (s.step o calls).1.result = .ok b) :
    (s.step o calls).1.after.state.generation = s.state.generation + 1 ∧
      (s.step o calls).1.after.state.isTerminated = b := by
  cases s with
  | evolution s => exact Evolution.step_going going h
  | compass s => exact Compass.step_going going h
  | ensemble f build members =>
      change (stepEnsemble f build members (Solver.moves o members) o calls).1.result = _ at h
      show (stepEnsemble f build members (Solver.moves o members) o calls).1.after.state.generation =
          f.state.generation + 1 ∧
        (stepEnsemble f build members (Solver.moves o members) o calls).1.after.state.isTerminated = b
      rcases hc : f.checkReady o with e | u
      · rw [stepEnsemble_of_refused hc] at h
        cases h
      cases hv : Dispatch.verdicts f.map.name members.length
          (replies f members (Solver.moves o members) calls) with
      | error e =>
          rw [(stepEnsemble_of_verdicts_error build hc going hv).1] at h
          cases h
      | ok flags =>
          obtain ⟨hr, ha⟩ := stepEnsemble_of_verdicts_ok build hc going hv
          rw [hr] at h
          rw [ha]
          obtain ⟨reason, watch, _, rfl, hafter⟩ := Frame.conclude_ok h
          refine ⟨(Frame.conclude_frame f flags _).1, ?_⟩
          show (Frame.conclude f flags _).after.state.isTerminated = _
          rw [hafter]
          exact Frame.isTerminated_concluded reason rfl

/-- A step leaves the token alone. -/
theorem token_step (s : Solver α) (o : Objective α) (calls : Nat) :
    (s.step o calls).1.after.token = s.token := by
  cases going : s.state.isTerminated with
  | true => rw [(step_of_isTerminated o calls going).1]
  | false =>
      obtain ⟨_, _, ha | ⟨_, _, ha⟩⟩ := step_marked s s.token o calls going going
      · rw [marked_self, setToken_eq_marked] at ha
        rw [ha, token_marked]
      · rw [marked_self] at ha
        rw [ha, token_marked]

end Solver
end BoxSearch

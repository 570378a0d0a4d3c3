import BoxSearch.Proofs.Evolution.Step
import BoxSearch.Proofs.Solver.Calls

/-!
# Invariants of a run of differential evolution

A step of an `Evolution` writes in two places only: when the drawn population got its
energies, and when the trials got theirs.  Everything else that happens during a run
exchanges the criterion, the token or the status, writes to the log, or replaces start
values before the first population is evaluated.

`Quiet` says what a property of a run and its events has to survive when nothing is
committed, and `Invariant` adds start values and the two commits; `Invariant.step` follows
them through a step, whatever its result, and `Invariant.of_reached` through all calls of a
user.  So a statement about all runs is proved by looking at the two commits, and does not
see the step itself.
-/

namespace BoxSearch

/-- The records of a batch that is a list of points with their energies. -/
theorem Batch.records_zip {α : Type} (first : Nat) (xs : List (Point α)) (es : List Float) :
    records first ((xs.zip es).map (·.1)) ((xs.zip es).map (·.2)) = records first xs es := by
  unfold records
  rw [List.zip_map', List.map_id']

namespace Evolution

variable {α : Type} [Scalar α]
variable {usable : Objective α → Prop} {P : List (Event α) → Evolution α → Prop}
variable {s t : Evolution α} {o : Objective α} {m : EvaluationMap α} {strategy : Strategy α}
variable {events : List (Event α)} {calls : Nat}

/-! ## Start values -/

/-- A population is taken before the first one is evaluated, if it has members of the right
dimension; it is clipped, and its energies are not known. -/
theorem setInitialPopulation_eq_ok {p : Population α} (h : s.setInitialPopulation p = .ok t) :
    s.evaluated = false ∧ p.width = s.dim ∧ p.rows ≠ [] ∧
      t = { s with state := { s.state with
        population := ⟨p.width, p.rows.map s.clip⟩
        energies := List.replicate (p.rows.map s.clip).length Double.infinity
        bestSolution := (p.rows.map s.clip).headD [] } } := by
  unfold setInitialPopulation checkUnstarted at h
  cases hr : s.ready with
  | false => simp [hr, bind, Except.bind] at h
  | true =>
      cases he : s.evaluated with
      | true => simp [hr, he, bind, Except.bind] at h
      | false =>
          simp only [hr, he, bind, Except.bind, Bool.not_true, Bool.false_eq_true, if_false] at h
          split at h
          · cases h
          next width =>
            split at h
            · cases h
            next nonempty =>
              cases h
              exact ⟨rfl, Decidable.not_not.1 width, fun hp => nonempty (hp ▸ rfl), rfl⟩

/-- Start values are taken only before the first population is evaluated. -/
theorem setInitialPopulation_ok {p : Population α} (h : s.setInitialPopulation p = .ok t) :
    s.evaluated = false ∧ ∃ population energies bestSolution,
      t = { s with state := { s.state with population, energies, bestSolution } } := by
  obtain ⟨fresh, _, _, rfl⟩ := setInitialPopulation_eq_ok h
  exact ⟨fresh, _, _, _, rfl⟩

/-- A start point of the right dimension is taken before the first population is evaluated;
it is clipped. -/
theorem setInitialGuess_eq_ok {x : Point α} (h : s.setInitialGuess x = .ok t) :
    s.evaluated = false ∧ x.length = s.dim ∧
      t = { s with state := { s.state with
        population := s.state.population.setRow 0 (s.clip x)
        bestSolution := s.clip x } } := by
  unfold setInitialGuess checkUnstarted at h
  cases hr : s.ready with
  | false => simp [hr, bind, Except.bind] at h
  | true =>
      cases he : s.evaluated with
      | true => simp [hr, he, bind, Except.bind] at h
      | false =>
          simp only [hr, he, bind, Except.bind, Bool.not_true, Bool.false_eq_true, if_false] at h
          split at h
          · cases h
          next length =>
            split at h
            · cases h
            split at h
            · cases h
            cases h
            exact ⟨rfl, Decidable.not_not.1 length, rfl⟩

theorem setInitialGuess_ok {x : Point α} (h : s.setInitialGuess x = .ok t) :
    s.evaluated = false ∧ ∃ population bestSolution,
      t = { s with state := { s.state with population, bestSolution } } := by
  obtain ⟨fresh, _, rfl⟩ := setInitialGuess_eq_ok h
  exact ⟨fresh, _, _, rfl⟩

theorem exists_of_map_eq_ok {β γ : Type} {r : Except SolverError β} {f : β → γ} {y : γ}
    (h : r.map f = .ok y) : ∃ x, r = .ok x ∧ y = f x := by
  cases r with
  | error e => cases h
  | ok x =>
      cases h
      exact ⟨x, rfl, rfl⟩

/-- The first batch leaves the plug-ins alone. -/
theorem evaluateFirst_plugs (s : Evolution α) (m : EvaluationMap α) (o : Objective α) (calls : Nat) :
    (s.evaluateFirst m o calls).1.after.map = s.map ∧
      (s.evaluateFirst m o calls).1.after.strategy = s.strategy := by
  cases hr : (s.evaluateFirst m o calls).1.result with
  | error e =>
      rw [evaluateFirst_error hr]
      exact ⟨rfl, rfl⟩
  | ok u =>
      rcases evaluateFirst_ok hr with ⟨_, ha⟩ | ⟨_, es, _, ha⟩ <;>
        (rw [ha]; exact ⟨rfl, rfl⟩)

/-! ## What a property has to survive -/

/-- The record of the best point of a state. -/
def summary (state : State α) : Event α :=
  .generation ⟨state.evaluations, state.bestSolution, state.bestEnergy⟩

/-- A property of a solver and the events so far survives what commits nothing. -/
structure Quiet (P : List (Event α) → Evolution α → Prop) : Prop where
  /-- an entry of the log -/
  log : ∀ {events s} (entry : LogEntry), P events s → P (events ++ [.log entry]) s
  /-- what a criterion remembers, requests, and the status -/
  frame : ∀ {events s} (watch : Option Watch) (token : CancelToken) (status : Status),
    P events s → P events { s with watch, token, state := { s.state with status } }

namespace Quiet

theorem running (quiet : Quiet P) (h : P events s) : P events s.running :=
  quiet.frame s.watch s.token .running h

theorem checkStop (quiet : Quiet P) (h : P events s) :
    P (events ++ s.checkStop.events) s.checkStop.after := by
  unfold Evolution.checkStop
  cases ha : askWatch s.state s.watch with
  | error e => simpa [Reply.refuse] using h
  | ok answer =>
      obtain ⟨reason, watch⟩ := answer
      cases hr : reason.or (s.limits.reason? s.state) with
      | none =>
          simp only [hr, Reply.done, List.append_nil]
          exact quiet.frame watch s.token s.state.status h
      | some text =>
          simp only [hr, Reply.done]
          exact quiet.log _ (quiet.frame watch s.token (.terminated text) h)

theorem timing (quiet : Quiet P) (h : P events s) :
    P (events ++ if s.timed then [.log (.generationTimed s.state.generation)] else []) s := by
  split
  · exact quiet.log _ h
  · simpa using h

/-- What follows the commitment of a first population. -/
theorem evaluateFirst_of_batch_ok {es : List Float} (quiet : Quiet P) {n : Nat}
    (fresh : s.evaluated = false) (hb : s.evaluateBatch m o calls s.firstRows = (.ok es, n))
    (committed : P (events ++ Batch.records (s.state.evaluations + 1) s.firstRows es)
      (s.commitFirst s.firstRows es)) :
    P (events ++ (s.evaluateFirst m o calls).1.events) (s.evaluateFirst m o calls).1.after := by
  unfold firstRows at hb committed
  simp only [Evolution.evaluateFirst, fresh, Bool.false_eq_true, if_false, hb, Reply.done]
  cases es with
  | nil => simpa using committed
  | cons e es =>
      rw [← List.append_assoc]
      exact quiet.log _ committed

/-- What follows the commitment of a generation of trials. -/
theorem evolve_of_batch_ok {points : List (Point α)} {g : Generator} {es : List Float}
    (quiet : Quiet P) {n : Nat} (ht : s.allTrials strategy = .ok (points, g))
    (hb : s.evaluateBatch m o calls points = (.ok es, n))
    (committed : P (events ++ (Batch.records (s.state.evaluations + 1) points es ++
      [summary (s.bred points g es).state])) (s.bred points g es)) :
    P (events ++ (s.evolve strategy m o calls).1.events) (s.evolve strategy m o calls).1.after := by
  have logged := quiet.log
    (.evolutionGeneration (s.bred points g es).state.generation
      (s.bred points g es).state.bestEnergy (s.bred points g es).state.energies
      (acceptedCount s.state (points.zip es))) committed
  have asked := quiet.checkStop (quiet.timing logged)
  unfold allTrials at ht
  simp only [Evolution.evolve, ht, hb, commitGeneration, Reply.preceded, Batch.records_zip]
  simp only [List.append_assoc, List.cons_append, List.nil_append, summary] at asked ⊢
  exact asked

end Quiet

/-- A property of a solver and the events so far survives whatever can happen to them. -/
structure Invariant (usable : Objective α → Prop) (P : List (Event α) → Evolution α → Prop) : Prop
    extends Quiet P where
  /-- start values -/
  started : ∀ {events s} (population : Population α) (energies : List Float)
    (bestSolution : Point α), s.evaluated = false → P events s →
      P events { s with state := { s.state with population, energies, bestSolution } }
  /-- the drawn population got its energies -/
  first : ∀ {events s m o n es}, usable o → s.map = some m → s.evaluated = false →
    (s.evaluateBatch m o n s.firstRows).1 = .ok es → P events s →
      P (events ++ Batch.records (s.state.evaluations + 1) s.firstRows es)
        (s.commitFirst s.firstRows es)
  /-- the trials got theirs -/
  bred : ∀ {events s m o n strategy points g es}, usable o → s.map = some m →
    s.strategy = some strategy → s.evaluated = true → s.allTrials strategy = .ok (points, g) →
    (s.evaluateBatch m o n points).1 = .ok es → P events s →
      P (events ++ (Batch.records (s.state.evaluations + 1) points es ++
          [summary (s.bred points g es).state])) (s.bred points g es)

namespace Invariant

theorem evaluateFirst (inv : Invariant usable P) (calls : Nat) (ho : usable o) (hm : s.map = some m)
    (h : P events s) :
    P (events ++ (s.evaluateFirst m o calls).1.events) (s.evaluateFirst m o calls).1.after := by
  cases hs : s.evaluated with
  | true =>
      rw [evaluateFirst_of_evaluated hs]
      simpa [Reply.done] using h
  | false =>
      rcases hb : s.evaluateBatch m o calls s.firstRows with ⟨e | es, n⟩
      · rw [evaluateFirst_of_batch_error hs hb]
        simpa [Reply.refuse] using h
      · exact inv.evaluateFirst_of_batch_ok hs hb (inv.first ho hm hs (by rw [hb]) h)

theorem evolve (inv : Invariant usable P) (calls : Nat) (ho : usable o) (hm : s.map = some m)
    (hs : s.strategy = some strategy) (evaluated : s.evaluated = true) (h : P events s) :
    P (events ++ (s.evolve strategy m o calls).1.events) (s.evolve strategy m o calls).1.after := by
  rcases ht : s.allTrials strategy with e | ⟨points, g⟩
  · rw [evolve_of_trials_error ht]
    simpa [Reply.refuse] using h
  rcases hb : s.evaluateBatch m o calls points with ⟨e | es, n⟩
  · rw [evolve_of_batch_error ht hb]
    exact inv.log _ h
  · exact inv.evolve_of_batch_ok ht hb (inv.bred ho hm hs evaluated ht (by rw [hb]) h)

/-- An invariant survives a step, whatever its result. -/
theorem step (inv : Invariant usable P) (ho : usable o) (h : P events s) :
    P (events ++ (s.step o calls).1.events) (s.step o calls).1.after := by
  rcases hc : s.checkReady o with e | ⟨strategy, m⟩
  · rw [step_of_refused hc]
    simpa [Reply.refuse] using h
  cases going : s.state.isTerminated with
  | true =>
      rw [step_of_ended hc going]
      simpa [Reply.done] using h
  | false =>
      obtain ⟨_, hs, _, hm, _⟩ := checkReady_eq_ok_iff.1 hc
      cases hf : (s.evaluateFirst m o calls).1.result with
      | error e =>
          rw [step_eq_of_first_error hc going hf]
          simpa [Reply.refuse] using h
      | ok u =>
          obtain ⟨map, plan⟩ := evaluateFirst_plugs s m o calls
          have begun := inv.running (inv.evaluateFirst calls ho hm h)
          have grown := inv.evolve (s := (s.evaluateFirst m o calls).1.after.running)
            (s.evaluateFirst m o calls).2 ho (map.trans hm) (plan.trans hs)
            (evaluated_evaluateFirst hf) begun
          rw [List.append_assoc] at grown
          rw [step_eq_of_first_ok hc going hf]
          exact grown

end Invariant

/-! ## Runs -/

/-- The step of a solver that is a run of differential evolution. -/
theorem step_evolution_after (s : Evolution α) :
    ((Solver.evolution s).step o calls).1.after = .evolution (s.step o calls).1.after := rfl

/-- What survives the steps of an evolution, start values and what commits nothing, survives the
calls on the solver that the evolution is. -/
theorem Quiet.paced {Q : List (Event α) → List (Solver.Pace α) → Evolution α → Prop}
    (quiet : ∀ ps, Quiet fun events s => Q events ps s)
    (started : ∀ {events ps s} (population : Population α) (energies : List Float)
      (bestSolution : Point α), s.evaluated = false → Q events ps s →
        Q events ps { s with state := { s.state with population, energies, bestSolution } })
    (step : ∀ {events ps s o} (calls : Nat), usable o → Q events ps s →
      Q (events ++ (s.step o calls).1.events) (ps ++ [⟨.evolution s, o, calls⟩])
        (s.step o calls).1.after) :
    Solver.Paced usable fun events ps t => ∃ s, t = .evolution s ∧ Q events ps s where
  step calls ho h := by
    obtain ⟨s, rfl, h⟩ := h
    exact ⟨_, rfl, step calls ho h⟩
  token {_ ps _} token h := by
    obtain ⟨s, rfl, h⟩ := h
    exact ⟨_, rfl, (quiet ps).frame s.watch token s.state.status h⟩
  marked {_ ps _} h := by
    obtain ⟨s, rfl, h⟩ := h
    exact ⟨_, rfl, (quiet ps).frame s.watch s.token .cancelled h⟩
  log {_ ps _} entry h := by
    obtain ⟨s, rfl, h⟩ := h
    exact ⟨s, rfl, (quiet ps).log entry h⟩
  populated := by
    rintro events ps _ t p ht ⟨s, rfl, h⟩
    obtain ⟨s', hs', rfl⟩ := exists_of_map_eq_ok ht
    obtain ⟨fresh, population, energies, best, rfl⟩ := setInitialPopulation_ok hs'
    exact ⟨_, rfl, started population energies best fresh h⟩
  guessed := by
    rintro events ps _ t x ht ⟨s, rfl, h⟩
    obtain ⟨s', hs', rfl⟩ := exists_of_map_eq_ok ht
    obtain ⟨fresh, population, best, rfl⟩ := setInitialGuess_ok hs'
    exact ⟨_, rfl, started population s.state.energies best fresh h⟩

/-- An invariant of differential evolution is one of the solver that it is. -/
theorem Invariant.toSolver (inv : Invariant usable P) :
    Solver.Invariant usable fun events t => ∃ s, t = .evolution s ∧ P events s :=
  (Quiet.paced (Q := fun events _ s => P events s) (fun _ => inv.toQuiet) inv.started
    fun _ ho h => inv.step ho h).invariant

/-- **An invariant of differential evolution holds wherever a user's calls lead.** -/
theorem Invariant.of_reached {t : Solver α} (inv : Invariant usable P) (h : P [] s)
    (run : Solver.Reached usable (.evolution s) events t) : ∃ s', t = .evolution s' ∧ P events s' :=
  inv.toSolver.of_reached ⟨s, rfl, h⟩ run

end Evolution
end BoxSearch

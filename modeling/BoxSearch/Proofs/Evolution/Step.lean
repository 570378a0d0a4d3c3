import BoxSearch.Proofs.Criterion.Asking
import BoxSearch.Solver.Evolution

/-!
# What a generation of an evolution leaves behind

A step of an `Evolution` runs through two batches, that of the drawn population
and that of the trials, and may end at several places between them.  This file
says once what each place of ending leaves behind, so that nothing after it has
to open the step again.

* `step_error` — a step that fails leaves the solver as it was, or it got as far
  as the trials: then the evaluated first population stands and the run is going.
* `step_ok` — a step that succeeds found the run ended already, or it bred a new
  population and asked whether the run stops.
* `failed_step_keeps_iff` draws the line between the two ways of failing: a failed
  step takes everything back exactly when the trials were not due yet, or when
  the first population had its energies and the run was going before.

Faults are set apart throughout.  A step that meets one has no answer at all, and
what it leaves behind is nobody's to go on from.
-/

namespace BoxSearch

/-- An operation that fails with an evaluation error, as a test on its result. -/
def failsInEvaluation {ρ : Type} (r : Except SolverError ρ) : Bool :=
  match r with
  | .error e => e.isEvaluationError
  | .ok _ => false

theorem exists_error_of_test {ρ : Type} {r : Except SolverError ρ}
    (h : failsInEvaluation r = true) :
    ∃ e, r = .error e ∧ e.isEvaluationError = true ∧ e.fault? = none := by
  cases r with
  | ok x => cases h
  | error e =>
      refine ⟨e, rfl, h, ?_⟩
      cases e <;> first | rfl | cases h

theorem ne_fault_of_test {ρ : Type} {r : Except SolverError ρ} (h : failsInEvaluation r = true)
    (c : Fault) : r ≠ .error (.fault c) := by
  rintro rfl
  cases h

/-- An operation that does not meet a fault has an error that is none. -/
theorem fault?_eq_none {ρ : Type} {r : Except SolverError ρ} {e : SolverError}
    (returned : ∀ c, r ≠ .error (.fault c)) (h : r = .error e) : e.fault? = none := by
  cases e with
  | fault c => exact absurd h (returned c)
  | _ => rfl

theorem ne_ok_of_test {ρ : Type} {r : Except SolverError ρ} (h : failsInEvaluation r = true)
    (x : ρ) : r ≠ .ok x := by
  rintro rfl
  cases h

theorem exists_ok_of_isOk {ρ : Type} {r : Except SolverError ρ} (h : r.isOk = true) :
    ∃ x, r = .ok x := by
  cases r with
  | ok x => exact ⟨x, rfl⟩
  | error e => cases h

namespace Evolution

variable {α : Type} [Scalar α]
variable {s : Evolution α} {o : Objective α} {map : EvaluationMap α} {strategy : Strategy α}
variable {calls : Nat} {b : Bool} {e : SolverError}

/-! ## The pieces of a step -/

/-- The solver with its run going. -/
def running (s : Evolution α) : Evolution α :=
  { s with state := { s.state with status := .running } }

/-- The drawn population as it is evaluated: repaired, then clipped. -/
def firstRows (s : Evolution α) : List (Point α) := s.state.population.rows.map s.finish

/-- The solver after the selection between its members and their trials. -/
def bred (s : Evolution α) (points : List (Point α)) (generator : Generator)
    (energies : List Float) : Evolution α :=
  { s with generator, state := select s.state (points.zip energies) }

/-- The trials of all members. -/
def allTrials (s : Evolution α) (strategy : Strategy α) :
    Except SolverError (List (Point α) × Generator) :=
  s.trials strategy (List.range s.state.population.size) s.generator

/-- The solver after the question whether the run ends was answered: the criterion's
reason comes before that of the limits. -/
def concluded (s : Evolution α) (reason : Option String) : Evolution α :=
  match reason.or (s.limits.reason? s.state) with
  | some reason => { s with state := { s.state with status := .terminated reason } }
  | none => s

/-! ## What a step needs -/

/-- A step finds its plug-ins exactly when a population was drawn, the strategy, the
criterion and the map are there, the objective has the right dimension, and the
population is large enough for the strategy. -/
theorem checkReady_eq_ok_iff :
    s.checkReady o = .ok (strategy, map) ↔
      s.ready = true ∧ s.strategy = some strategy ∧ s.watch.isSome = true ∧ s.map = some map ∧
        o.checkDimension s.dim = .ok () ∧
        ∃ n, strategy.minPopulation = .ok n ∧ n ≤ s.state.population.size := by
  unfold checkReady
  -- the guards in their order: each one that fails leaves an error on the left and a
  -- missing part on the right
  rcases hr : s.ready with _ | _
  · simp [bind, Except.bind]
  rcases hs : s.strategy with _ | strategy'
  · simp
  rcases hw : s.watch with _ | w
  · simp [bind, Except.bind]
  rcases hm : s.map with _ | map'
  · simp
  rcases hd : o.checkDimension s.dim with e | u
  · simp [bind, Except.bind]
  rcases hp : strategy'.minPopulation with e | n
  · simp only [hp, bind, Except.bind, Option.some.injEq]
    constructor
    · intro h
      cases h
    · rintro ⟨_, rfl, _, rfl, _, n, hn, _⟩
      rw [hp] at hn
      cases hn
  simp only [hp, bind, Except.bind, checkPopulation, Option.some.injEq]
  by_cases hn : s.state.population.size < n
  · simp only [if_pos hn]
    constructor
    · intro h
      cases h
    · rintro ⟨_, rfl, _, rfl, _, k, hk, hle⟩
      rw [hp] at hk
      cases hk
      omega
  · simp only [if_neg hn]
    constructor
    · intro h
      cases h
      exact ⟨trivial, rfl, rfl, rfl, trivial, n, hp, by omega⟩
    · rintro ⟨_, rfl, _, rfl, _⟩
      rfl

/-! ## The first population -/

theorem evaluateFirst_of_evaluated (h : s.evaluated = true) :
    s.evaluateFirst map o calls = (.done s () [], calls) := by
  rw [evaluateFirst, if_pos h]

/-- What `evaluateFirst` does when the batch of the drawn population fails. -/
theorem evaluateFirst_of_batch_error {n : Nat} (hs : s.evaluated = false)
    (hb : s.evaluateBatch map o calls s.firstRows = (.error e, n)) :
    s.evaluateFirst map o calls = (.refuse s e, n) := by
  unfold firstRows at hb
  simp only [evaluateFirst, hs, Bool.false_eq_true, if_false, hb]

/-- What `evaluateFirst` does when the drawn population has its energies. -/
theorem evaluateFirst_of_batch_ok {es : List Float} {n : Nat} (hs : s.evaluated = false)
    (hb : s.evaluateBatch map o calls s.firstRows = (.ok es, n)) :
    (s.evaluateFirst map o calls).1.result = .ok () ∧
      (s.evaluateFirst map o calls).1.after = s.commitFirst s.firstRows es := by
  unfold firstRows at hb
  simp only [evaluateFirst, hs, Bool.false_eq_true, if_false, hb]
  exact ⟨rfl, rfl⟩

/-- A first batch that fails leaves no trace. -/
theorem evaluateFirst_eq_of_error (h : (s.evaluateFirst map o calls).1.result = .error e) :
    s.evaluateFirst map o calls = (.refuse s e, (s.evaluateFirst map o calls).2) := by
  cases hs : s.evaluated with
  | true => rw [evaluateFirst_of_evaluated hs] at h; cases h
  | false =>
      rcases hb : s.evaluateBatch map o calls s.firstRows with ⟨e' | es, n⟩
      · rw [evaluateFirst_of_batch_error hs hb] at h ⊢
        cases h
        rfl
      · rw [(evaluateFirst_of_batch_ok hs hb).1] at h
        cases h

theorem evaluateFirst_error (h : (s.evaluateFirst map o calls).1.result = .error e) :
    (s.evaluateFirst map o calls).1.after = s := by
  rw [evaluateFirst_eq_of_error h]
  rfl

/-- The first population has its energies: from before, or from a batch that
succeeded. -/
theorem evaluateFirst_ok (h : (s.evaluateFirst map o calls).1.result = .ok ()) :
    (s.evaluated = true ∧ (s.evaluateFirst map o calls).1.after = s) ∨
      (s.evaluated = false ∧ ∃ es, (s.evaluateBatch map o calls s.firstRows).1 = .ok es ∧
        (s.evaluateFirst map o calls).1.after = s.commitFirst s.firstRows es) := by
  cases hs : s.evaluated with
  | true => exact Or.inl ⟨rfl, by rw [evaluateFirst_of_evaluated hs]; rfl⟩
  | false =>
      rcases hb : s.evaluateBatch map o calls s.firstRows with ⟨e' | es, n⟩
      · rw [evaluateFirst_of_batch_error hs hb] at h
        cases h
      · exact Or.inr ⟨rfl, es, rfl, (evaluateFirst_of_batch_ok hs hb).2⟩

/-- Once the first population has its energies it keeps them. -/
theorem evaluated_evaluateFirst (h : (s.evaluateFirst map o calls).1.result = .ok ()) :
    (s.evaluateFirst map o calls).1.after.evaluated = true := by
  rcases evaluateFirst_ok h with ⟨hs, ha⟩ | ⟨_, es, _, ha⟩
  · rw [ha, hs]
  · rw [ha]; rfl

/-- The first batch moves neither the generator nor the number of generations. -/
theorem evaluateFirst_frame :
    (s.evaluateFirst map o calls).1.after.generator = s.generator ∧
      (s.evaluateFirst map o calls).1.after.state.generation = s.state.generation := by
  cases hr : (s.evaluateFirst map o calls).1.result with
  | error e => rw [evaluateFirst_error hr]; exact ⟨rfl, rfl⟩
  | ok u =>
      rcases evaluateFirst_ok hr with ⟨_, ha⟩ | ⟨_, es, _, ha⟩
      · rw [ha]; exact ⟨rfl, rfl⟩
      · rw [ha]; exact ⟨rfl, rfl⟩

/-! ## The question whether the run ends -/

/-- What `checkStop` does when the criterion has an answer. -/
theorem checkStop_of_askWatch {reason : Option String} {watch : Option Watch}
    (h : askWatch s.state s.watch = .ok (reason, watch)) :
    s.checkStop.result = .ok (reason.or (s.limits.reason? s.state)).isSome ∧
      s.checkStop.after = ({ s with watch } : Evolution α).concluded reason := by
  unfold checkStop concluded
  rw [h]
  cases hr : reason.or (s.limits.reason? s.state) with
  | none => simp [hr, Reply.done]
  | some r => simp [hr, Reply.done]

/-- The question fails only when the criterion has no answer. -/
theorem checkStop_error (h : s.checkStop.result = .error e) : e.fault?.isSome = true := by
  cases ha : askWatch s.state s.watch with
  | ok p =>
      obtain ⟨reason, watch⟩ := p
      rw [(checkStop_of_askWatch ha).1] at h
      cases h
  | error e' =>
      have he : e' = e := by simpa [checkStop, ha, Reply.refuse] using h
      obtain ⟨c, rfl⟩ := fault_of_askWatch ha
      rw [← he]
      rfl

/-- What the question leaves behind, also where the criterion has no answer. -/
theorem after_checkStop (s : Evolution α) :
    s.checkStop.after = s ∨ ∃ reason watch, askWatch s.state s.watch = .ok (reason, watch) ∧
      s.checkStop.after = ({ s with watch } : Evolution α).concluded reason := by
  cases ha : askWatch s.state s.watch with
  | error e => exact Or.inl (by simp only [checkStop, ha, Reply.refuse])
  | ok p => exact Or.inr ⟨p.1, p.2, rfl, (checkStop_of_askWatch ha).2⟩

/-! ## A generation of trials -/

/-- Trials depend on what the strategy makes of the members, and on how new points are
finished. -/
theorem trials_congr {t : Evolution α} (finish : ∀ x, t.finish x = s.finish x)
    (generate : ∀ i g, strategy.generate t.state.population t.state.energies i g =
      strategy.generate s.state.population s.state.energies i g)
    (targets : List Nat) (g : Generator) :
    t.trials strategy targets g = s.trials strategy targets g := by
  induction targets generalizing g with
  | nil => rfl
  | cons i targets ih =>
      simp only [trials, generate]
      congr 1
      funext p
      rw [ih p.2, finish]

/-- What `evolve` does when the trials cannot be made. -/
theorem evolve_of_trials_error (ht : s.allTrials strategy = .error e) :
    s.evolve strategy map o calls = (.refuse s e, calls) := by
  unfold allTrials at ht
  simp only [evolve, ht]

/-- What `evolve` does when the batch of trials fails. -/
theorem evolve_of_batch_error {points : List (Point α)} {g : Generator} {n : Nat}
    (ht : s.allTrials strategy = .ok (points, g))
    (hb : s.evaluateBatch map o calls points = (.error e, n)) :
    s.evolve strategy map o calls =
      (⟨.error e, s, [.log (.evolutionAbandoned (s.state.generation + 1) e)]⟩, n) := by
  unfold allTrials at ht
  simp only [evolve, ht, hb]

/-- What `evolve` does when the trials have their energies. -/
theorem evolve_of_batch_ok {points : List (Point α)} {g : Generator} {es : List Float} {n : Nat}
    (ht : s.allTrials strategy = .ok (points, g))
    (hb : s.evaluateBatch map o calls points = (.ok es, n)) :
    (s.evolve strategy map o calls).1.result = (s.bred points g es).checkStop.result ∧
      (s.evolve strategy map o calls).1.after = (s.bred points g es).checkStop.after := by
  unfold allTrials at ht
  simp only [evolve, ht, hb]
  exact ⟨rfl, rfl⟩

theorem evolve_error (h : (s.evolve strategy map o calls).1.result = .error e)
    (returned : e.fault? = none) : (s.evolve strategy map o calls).1.after = s := by
  rcases ht : s.allTrials strategy with e' | ⟨points, g⟩
  · rw [evolve_of_trials_error ht]
    rfl
  · rcases hb : s.evaluateBatch map o calls points with ⟨e' | es, n⟩
    · rw [evolve_of_batch_error ht hb]
    · -- both batches stand, so only the criterion is left to fail, and it never refuses
      rw [(evolve_of_batch_ok ht hb).1] at h
      have hf := checkStop_error h
      rw [returned] at hf
      exact absurd hf (by simp)

theorem evolve_ok (h : (s.evolve strategy map o calls).1.result = .ok b) :
    ∃ points g es, s.allTrials strategy = .ok (points, g) ∧
      (s.evaluateBatch map o calls points).1 = .ok es ∧
      (s.bred points g es).checkStop.result = .ok b ∧
      (s.evolve strategy map o calls).1.after = (s.bred points g es).checkStop.after := by
  rcases ht : s.allTrials strategy with e' | ⟨points, g⟩
  · rw [evolve_of_trials_error ht] at h
    cases h
  · rcases hb : s.evaluateBatch map o calls points with ⟨e' | es, n⟩
    · rw [evolve_of_batch_error ht hb] at h
      cases h
    · obtain ⟨hr, ha⟩ := evolve_of_batch_ok ht hb
      exact ⟨points, g, es, rfl, by rw [hb], hr ▸ h, ha⟩

/-! ## A step -/

/-- What a step does when something is missing for it. -/
theorem step_of_refused (hc : s.checkReady o = .error e) :
    s.step o calls = (.refuse s e, calls) := by
  unfold step
  rw [hc]

/-- What a step does when the run has ended. -/
theorem step_of_ended (hc : s.checkReady o = .ok (strategy, map))
    (ended : s.state.isTerminated = true) : s.step o calls = (.done s true [], calls) := by
  unfold step
  rw [hc]
  exact if_pos ended

/-- A step on a population whose batch fails ends with it. -/
theorem step_eq_of_first_error (hc : s.checkReady o = .ok (strategy, map))
    (going : s.state.isTerminated = false)
    (hf : (s.evaluateFirst map o calls).1.result = .error e) :
    s.step o calls = (.refuse s e, (s.evaluateFirst map o calls).2) := by
  have refused := evaluateFirst_eq_of_error hf
  unfold step
  simp only [hc, going]
  rw [refused]
  rfl

/-- A step on a population with energies goes on to the trials. -/
theorem step_eq_of_first_ok (hc : s.checkReady o = .ok (strategy, map))
    (going : s.state.isTerminated = false)
    (hf : (s.evaluateFirst map o calls).1.result = .ok ()) :
    s.step o calls =
      let begun := s.evaluateFirst map o calls
      let bred := begun.1.after.running.evolve strategy map o begun.2
      (bred.1.preceded begun.1.events, bred.2) := by
  unfold step
  simp only [hc, going]
  rcases hx : s.evaluateFirst map o calls with ⟨⟨r, t, events⟩, n⟩
  simp only [hx] at hf
  subst hf
  rfl

/-- What a step does when the first population's batch fails. -/
theorem step_of_first_error (hc : s.checkReady o = .ok (strategy, map))
    (going : s.state.isTerminated = false)
    (hf : (s.evaluateFirst map o calls).1.result = .error e) :
    (s.step o calls).1.result = .error e ∧ (s.step o calls).1.after = s := by
  rw [step_eq_of_first_error hc going hf]
  exact ⟨rfl, rfl⟩

/-- What a step does when the trials are due. -/
theorem step_of_first_ok (hc : s.checkReady o = .ok (strategy, map))
    (going : s.state.isTerminated = false)
    (hf : (s.evaluateFirst map o calls).1.result = .ok ()) :
    ∃ n, (s.step o calls).1.result =
        ((s.evaluateFirst map o calls).1.after.running.evolve strategy map o n).1.result ∧
      (s.step o calls).1.after =
        ((s.evaluateFirst map o calls).1.after.running.evolve strategy map o n).1.after := by
  rw [step_eq_of_first_ok hc going hf]
  exact ⟨_, rfl, rfl⟩

/-- The batch of trials is due in a step: nothing is missing, the run has not ended,
and the first population has its energies. -/
def TrialsDue (s : Evolution α) (o : Objective α) (calls : Nat) : Prop :=
  ∃ strategy map, s.checkReady o = .ok (strategy, map) ∧ s.state.isTerminated = false ∧
    (s.evaluateFirst map o calls).1.result = .ok ()

/-- **What a failed step leaves behind.**  Before the trials are due nothing is
changed; afterwards the evaluated first population stands, and the run is going. -/
theorem step_error (h : (s.step o calls).1.result = .error e) (returned : e.fault? = none) :
    (¬ s.TrialsDue o calls ∧ (s.step o calls).1.after = s) ∨
      ∃ strategy map, s.checkReady o = .ok (strategy, map) ∧ s.state.isTerminated = false ∧
        (s.evaluateFirst map o calls).1.result = .ok () ∧
        (s.step o calls).1.after = (s.evaluateFirst map o calls).1.after.running := by
  rcases hc : s.checkReady o with e' | ⟨strategy, map⟩
  · refine Or.inl ⟨?_, by rw [step_of_refused hc]; rfl⟩
    rintro ⟨strategy, map, hc', _⟩
    rw [hc] at hc'
    cases hc'
  · cases going : s.state.isTerminated with
    | true => rw [step_of_ended hc going] at h; cases h
    | false =>
        cases hf : (s.evaluateFirst map o calls).1.result with
        | error e' =>
            refine Or.inl ⟨?_, (step_of_first_error hc going hf).2⟩
            rintro ⟨strategy', map', hc', _, hf'⟩
            rw [hc] at hc'
            cases hc'
            rw [hf] at hf'
            cases hf'
        | ok u =>
            obtain ⟨n, hr, ha⟩ := step_of_first_ok hc going hf
            rw [hr] at h
            exact Or.inr ⟨strategy, map, rfl, rfl, hf, ha.trans (evolve_error h returned)⟩

/-- **What a successful step leaves behind.**  Either the run had ended already, or
the population was bred anew from one whose first members have their energies. -/
theorem step_ok (h : (s.step o calls).1.result = .ok b) :
    ∃ strategy map, s.checkReady o = .ok (strategy, map) ∧
      ((s.state.isTerminated = true ∧ b = true ∧ (s.step o calls).1.after = s) ∨
        s.state.isTerminated = false ∧ (s.evaluateFirst map o calls).1.result = .ok () ∧
          ∃ t points g es n, t = (s.evaluateFirst map o calls).1.after.running ∧
            t.allTrials strategy = .ok (points, g) ∧
            (t.evaluateBatch map o n points).1 = .ok es ∧
            (t.bred points g es).checkStop.result = .ok b ∧
            (s.step o calls).1.after = (t.bred points g es).checkStop.after) := by
  rcases hc : s.checkReady o with e' | ⟨strategy, map⟩
  · rw [step_of_refused hc] at h
    cases h
  · refine ⟨strategy, map, rfl, ?_⟩
    cases going : s.state.isTerminated with
    | true =>
        rw [step_of_ended hc going] at h ⊢
        cases h
        exact Or.inl ⟨rfl, rfl, rfl⟩
    | false =>
        refine Or.inr ⟨rfl, ?_⟩
        cases hf : (s.evaluateFirst map o calls).1.result with
        | error e' => rw [(step_of_first_error hc going hf).1] at h; cases h
        | ok u =>
            obtain ⟨n, hr, ha⟩ := step_of_first_ok hc going hf
            rw [hr] at h
            obtain ⟨points, g, es, ht, hb, hs, ha'⟩ := evolve_ok h
            exact ⟨rfl, _, points, g, es, n, rfl, ht, hb, hs, ha.trans ha'⟩

/-- **What any step leaves behind**, also one that met a fault: the solver as it was, or the
evaluated first population, or a population bred from it. -/
theorem after_step (s : Evolution α) (o : Objective α) (calls : Nat) :
    (s.step o calls).1.after = s ∨
      ∃ strategy map t, s.checkReady o = .ok (strategy, map) ∧ s.state.isTerminated = false ∧
        (s.evaluateFirst map o calls).1.result = .ok () ∧
        t = (s.evaluateFirst map o calls).1.after.running ∧
        ((s.step o calls).1.after = t ∨
          ∃ points g es n, t.allTrials strategy = .ok (points, g) ∧
            (t.evaluateBatch map o n points).1 = .ok es ∧
            (s.step o calls).1.after = (t.bred points g es).checkStop.after) := by
  rcases hc : s.checkReady o with e | ⟨strategy, map⟩
  · exact Or.inl (by rw [step_of_refused hc]; rfl)
  cases going : s.state.isTerminated with
  | true => exact Or.inl (by rw [step_of_ended hc going]; rfl)
  | false =>
      cases hf : (s.evaluateFirst map o calls).1.result with
      | error e => exact Or.inl (step_of_first_error hc going hf).2
      | ok u =>
          obtain ⟨n, _, ha⟩ := step_of_first_ok hc going hf
          refine Or.inr ⟨strategy, map, _, rfl, rfl, hf, rfl, ?_⟩
          rw [ha]
          generalize (s.evaluateFirst map o calls).1.after.running = t
          rcases ht : t.allTrials strategy with e | ⟨points, g⟩
          · exact Or.inl (by rw [evolve_of_trials_error ht]; rfl)
          rcases hb : t.evaluateBatch map o n points with ⟨e | es, n'⟩
          · exact Or.inl (by rw [evolve_of_batch_error ht hb])
          · exact Or.inr ⟨points, g, es, n, rfl, by rw [hb], (evolve_of_batch_ok ht hb).2⟩

/-! ## Failed steps -/

theorem running_state_eq_iff : s.running.state = s.state ↔ s.state.status = .running := by
  constructor
  · intro h
    rw [← h]
    rfl
  · intro h
    simp only [running, ← h]

/-- **When a failed step commits nothing.**  State, generator and the mark of the
evaluated first population are what they were exactly when the trials were not due
in this step, or when the first population had its energies and the run was going
before it.  In the remaining failures the first population stands evaluated and the
run is going, while the generator and the number of generations are kept. -/
theorem failed_step_keeps_iff (s : Evolution α) (o : Objective α) (calls : Nat) (e : SolverError)
    (failed : (s.step o calls).1.result = .error e) (returned : e.fault? = none) :
    (((s.step o calls).1.after.state = s.state ∧
        (s.step o calls).1.after.generator = s.generator ∧
        (s.step o calls).1.after.evaluated = s.evaluated) ↔
      (s.TrialsDue o calls → s.evaluated = true ∧ s.state.status = .running)) ∧
    (s.TrialsDue o calls →
      (s.step o calls).1.after.evaluated = true ∧
        (s.step o calls).1.after.state.status = .running ∧
        (s.step o calls).1.after.generator = s.generator ∧
        (s.step o calls).1.after.state.generation = s.state.generation) := by
  rcases step_error failed returned with ⟨notDue, ha⟩ | ⟨strategy, map, hc, going, hf, ha⟩
  · refine ⟨⟨fun _ due => absurd due notDue, fun _ => ?_⟩, fun due => absurd due notDue⟩
    rw [ha]
    exact ⟨rfl, rfl, rfl⟩
  · have due : s.TrialsDue o calls := ⟨strategy, map, hc, going, hf⟩
    have hev : (s.step o calls).1.after.evaluated = true := by
      rw [ha]
      exact evaluated_evaluateFirst hf
    have hst : (s.step o calls).1.after.state.status = .running := by
      rw [ha]
      rfl
    refine ⟨⟨?_, ?_⟩, fun _ => ⟨hev, hst, ?_, ?_⟩⟩
    · rintro ⟨hs, _, he⟩ _
      exact ⟨by rw [← he, hev], by rw [← hs, hst]⟩
    · intro h
      obtain ⟨evaluated, status⟩ := h due
      rw [evaluateFirst_of_evaluated evaluated] at ha
      rw [ha]
      exact ⟨running_state_eq_iff.2 status, rfl, rfl⟩
    · rw [ha]
      exact evaluateFirst_frame.1
    · rw [ha]
      exact evaluateFirst_frame.2

/-! ### A run whose fifth evaluation fails -/

/-- Four members on a line, made ready and not yet evaluated. -/
def fourMembers : Evolution Float := ((standard 1 false).prepare none 4 (.number 1)).after

/-- The square of a coordinate, down at the fifth evaluation. -/
def downAtFifth : Objective Float where
  eval n x := if n = 4 then .error (.refused "call 5 failed") else .ok (x.map fun v => v * v).sum
  dimension := none

theorem fourMembers_fails : ∃ e, (fourMembers.step downAtFifth 0).1.result = .error e ∧
    e.isEvaluationError = true ∧ e.fault? = none :=
  exists_error_of_test (by decide +kernel)

/-- The conditions of `failed_step_keeps_iff` are met by a run whose first batch
succeeds and whose second one fails. -/
theorem failed_step_keeps_iff_fourMembers :
    ∃ e, (fourMembers.step downAtFifth 0).1.result = .error e ∧ e.fault? = none ∧
      (((fourMembers.step downAtFifth 0).1.after.state = fourMembers.state ∧
          (fourMembers.step downAtFifth 0).1.after.generator = fourMembers.generator ∧
          (fourMembers.step downAtFifth 0).1.after.evaluated = fourMembers.evaluated) ↔
        (fourMembers.TrialsDue downAtFifth 0 →
          fourMembers.evaluated = true ∧ fourMembers.state.status = .running)) := by
  obtain ⟨e, failed, _, returned⟩ := fourMembers_fails
  exact ⟨e, failed, returned, (failed_step_keeps_iff fourMembers downAtFifth 0 e failed returned).1⟩

/-- A failed step does not always commit nothing: here the first population's four
evaluations stand after it. -/
theorem failed_step_commits_first_population :
    fourMembers.ready = true ∧ fourMembers.evaluated = false ∧ fourMembers.state.evaluations = 0 ∧
      (∃ e, (fourMembers.step downAtFifth 0).1.result = .error e ∧ e.isEvaluationError = true) ∧
      (fourMembers.step downAtFifth 0).1.after.evaluated = true ∧
      (fourMembers.step downAtFifth 0).1.after.state.evaluations = 4 ∧
      (fourMembers.step downAtFifth 0).1.after.state.status = .running := by
  obtain ⟨e, failed, evaluation, _⟩ := fourMembers_fails
  have before : fourMembers.ready = true ∧ fourMembers.evaluated = false ∧
      fourMembers.state.evaluations = 0 := by decide +kernel
  have after : (fourMembers.step downAtFifth 0).1.after.evaluated = true ∧
      (fourMembers.step downAtFifth 0).1.after.state.evaluations = 4 ∧
      (fourMembers.step downAtFifth 0).1.after.state.status = .running := by decide +kernel
  exact ⟨before.1, before.2.1, before.2.2, ⟨e, failed, evaluation⟩, after⟩

end Evolution
end BoxSearch

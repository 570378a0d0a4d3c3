import BoxSearch.Proofs.Evolution.Unfailing
import BoxSearch.Proofs.Solver.Settings
import BoxSearch.Proofs.Strategy.Composition

/-!
# How a sound run fails

A run is sound when nothing but its objective can fail (`Evolution.Sound`).  Here the objective
does fail, on any call and any point.

* `Sound.after_step` — a sound run stays sound, whatever becomes of its steps;
* `Sound.step_error` — a step of it fails with an evaluation error, or its criterion cannot be
  asked because a window of it cannot be counted;
* `Sound.step_checked` — the trials of a differential strategy may be made step by step, with
  every draw, swap and access checked: every step has the same result, and leaves the same
  behind.
-/

namespace BoxSearch

variable {α : Type}

/-! ## Faults of a criterion -/

theorem Test.eq_overflow {t : Test} {f : Fault} (h : t.fault? = some f) : f = .overflow := by
  cases t with
  | change tolerance generations =>
      simp only [fault?] at h
      split at h
      · cases h
      · exact (Option.some.inj h).symm
  | relativeChange tolerance generations =>
      simp only [fault?] at h
      split at h
      · cases h
      · exact (Option.some.inj h).symm
  | _ => cases h

namespace Watch

variable [Scalar α]

mutual

/-- The only fault that a criterion meets is a window that cannot be counted. -/
theorem eq_overflow (s : State α) {f : Fault} : ∀ w : Watch, w.fault? s = some f → f = .overflow
  | .test _ _, h => Test.eq_overflow h
  | .any members _, h => eq_overflow_any s members h
  | .all members, h => eq_overflow_all s members h

theorem eq_overflow_any (s : State α) {f : Fault} :
    ∀ ws : List Watch, faultAny? s ws = some f → f = .overflow
  | [], h => nomatch h
  | w :: ws, h => by
      rcases Option.or_eq_some_iff.1 h with hw | ⟨-, hws⟩
      · exact eq_overflow s w hw
      · split at hws
        · cases hws
        · exact eq_overflow_any s ws hws

theorem eq_overflow_all (s : State α) {f : Fault} :
    ∀ ws : List Watch, faultAll? s ws = some f → f = .overflow
  | [], h => nomatch h
  | w :: ws, h => by
      rcases Option.or_eq_some_iff.1 h with hw | ⟨-, hws⟩
      · exact eq_overflow s w hw
      · split at hws
        · exact eq_overflow_all s ws hws
        · cases hws

end

end Watch

/-- A criterion that cannot be asked has a window that cannot be counted. -/
theorem askWatch_error [Scalar α] {state : State α} {w : Option Watch} {e : SolverError}
    (h : askWatch state w = .error e) :
    e = .fault .overflow ∧
      ∃ c, w.map Watch.criterion = some c ∧ c.every (·.fault?.isNone) = false := by
  cases w with
  | none => cases h
  | some w =>
      cases hf : w.fault? state with
      | none =>
          simp only [askWatch, Watch.answer, hf] at h
          cases h
      | some f =>
          simp only [askWatch, Watch.answer, hf] at h
          cases h
          refine ⟨by rw [w.eq_overflow state hf], w.criterion, rfl, ?_⟩
          rw [Bool.eq_false_iff]
          intro every
          rw [Watch.fault?_of_faultless every state] at hf
          cases hf

/-! ## Batches -/

/-- The error of an evaluation. -/
def SolverError.OfEvaluation (e : SolverError) : Prop := ∃ place text, e = .evaluation place text

theorem Objective.evaluateAt_error {o : Objective α} {n i : Nat} {x : Point α} {e : SolverError}
    (h : o.evaluateAt n i x = .error e) : e.OfEvaluation := by
  unfold evaluateAt at h
  split at h
  · cases h
  · next b _ =>
    cases h
    exact ⟨i, b.message, rfl⟩

namespace EvaluationMap

variable {o : Objective α} {m : EvaluationMap α} {e : SolverError}

theorem mem_of_gather_error {results : List (Except SolverError Float)}
    (h : gather results = .error e) : .error e ∈ results := by
  induction results with
  | nil => cases h
  | cons r results ih =>
      cases r with
      | error e' =>
          cases h
          exact List.mem_cons_self
      | ok v =>
          rw [gather] at h
          cases hg : gather results with
          | error e' =>
              rw [hg] at h
              cases h
              exact List.mem_cons_of_mem _ (ih hg)
          | ok vs =>
              rw [hg] at h
              cases h

/-- An orderly map fails where the objective does. -/
theorem Orderly.evaluate_error (orderly : m.Orderly) {calls : Nat} {xs : List (Point α)}
    (h : (m.evaluate o calls xs).1 = .error e) : e.OfEvaluation := by
  rw [orderly] at h
  obtain ⟨i, _, hi⟩ := List.mem_mapIdx.1 (mem_of_gather_error h)
  exact Objective.evaluateAt_error hi

end EvaluationMap

/-- A batch fails where the objective does, when neither map nor penalty can. -/
theorem Batch.evaluate_error {o : Objective α} {m : EvaluationMap α} {c : Constraints α}
    {e : SolverError} (orderly : m.Orderly) (penalty : c.Unfailing) {name : String} {calls : Nat}
    {xs : List (Point α)} (h : (evaluate m name c o calls xs).1 = .error e) : e.OfEvaluation := by
  unfold evaluate at h
  rcases hm : m.evaluate o calls xs with ⟨e' | vs, n⟩
  · rw [hm] at h
    cases h
    exact orderly.evaluate_error (by rw [hm])
  · have hl : vs.length = xs.length := orderly.length (by rw [hm])
    obtain ⟨es, hes⟩ := penalty.applyPenalties (xs.zip vs)
    simp only [hm, if_pos hl, hes] at h
    cases h

namespace Evolution

variable [Scalar α] {s t : Evolution α} {o : Objective α} {m : EvaluationMap α}
variable {strategy : Strategy α} {size calls : Nat} {e : SolverError}

/-- The question whether the run ends fails with the criterion. -/
theorem askWatch_of_checkStop (h : s.checkStop.result = .error e) :
    askWatch s.state s.watch = .error e := by
  cases ha : askWatch s.state s.watch with
  | ok p =>
      rw [(checkStop_of_askWatch ha).1] at h
      cases h
  | error e' =>
      simp only [checkStop, ha, Reply.refuse] at h
      cases h
      rfl

/-! ## Steps -/

namespace Sound

theorem evaluateBatch_error (h : s.Sound strategy m size) {xs : List (Point α)}
    (failed : (s.evaluateBatch m o calls xs).1 = .error e) : e.OfEvaluation :=
  Batch.evaluate_error h.orderly h.constraints failed

/-- Where the first population has its energies, it leaves a sound run. -/
theorem after_evaluateFirst (h : s.Sound strategy m size)
    (done : (s.evaluateFirst m o calls).1.result = .ok ()) :
    (s.evaluateFirst m o calls).1.after.running.Sound strategy m size ∧
      (s.evaluateFirst m o calls).1.after.running.evaluated = true := by
  refine ⟨?_, evaluated_evaluateFirst done⟩
  rcases evaluateFirst_ok done with ⟨_, ha⟩ | ⟨fresh, es, hb, ha⟩
  · rw [ha]
    exact h.running
  · rw [ha]
    exact (h.commitFirst fresh (Batch.length_of_evaluate hb)).running

theorem checkStop (h : s.Sound strategy m size) : s.checkStop.after.Sound strategy m size := by
  rcases after_checkStop s with ha | ⟨reason, watch, hask, ha⟩
  · rw [ha]
    exact h
  · have asked := h.withWatch watch ((isSome_of_askWatch hask).trans h.watch)
    rw [ha]
    unfold concluded
    split
    · exact asked.withState s.evaluated s.generator h.table h.members h.rounds h.fresh
    · exact asked

/-- **A sound run stays sound**, whatever becomes of its steps. -/
theorem after_step (h : s.Sound strategy m size) (o : Objective α) (calls : Nat) :
    (s.step o calls).1.after.Sound strategy m size := by
  rcases Evolution.after_step s o calls with
    ha | ⟨strategy', m', t, hc, -, done, rfl, ha | ⟨points, g, es, n, ht, hb, ha⟩⟩
  · rw [ha]
    exact h
  all_goals
    obtain ⟨-, plan, -, batches, -⟩ := checkReady_eq_ok_iff.1 hc
    cases plan.symm.trans h.plan
    cases batches.symm.trans h.batches
    obtain ⟨begun, evaluated⟩ := h.after_evaluateFirst done
    rw [ha]
  · exact begun
  · obtain ⟨points', g', ht', lengths⟩ := begun.allTrials evaluated
    cases ht.symm.trans ht'
    exact (begun.bred evaluated g lengths (length_of_batch ht hb)).checkStop

/-- **What a step of a sound run fails with**: an evaluation error, or the criterion cannot be
asked. -/
theorem step_error (h : s.Sound strategy m size) (dimension : o.checkDimension s.dim = .ok ())
    (failed : (s.step o calls).1.result = .error e) :
    e.OfEvaluation ∨ (e = .fault .overflow ∧ ∃ c, s.watch.map Watch.criterion = some c ∧
      c.every (·.fault?.isNone) = false) := by
  have hc := h.checkReady dimension
  cases going : s.state.isTerminated with
  | true =>
      rw [step_of_ended hc going] at failed
      cases failed
  | false =>
      cases hf : (s.evaluateFirst m o calls).1.result with
      | error e' =>
          rw [(step_of_first_error hc going hf).1] at failed
          cases failed
          cases fresh : s.evaluated with
          | true =>
              rw [evaluateFirst_of_evaluated fresh] at hf
              cases hf
          | false =>
              rcases hb : s.evaluateBatch m o calls s.firstRows with ⟨e' | es, n⟩
              · rw [evaluateFirst_of_batch_error fresh hb] at hf
                cases hf
                exact Or.inl (h.evaluateBatch_error (by rw [hb]))
              · rw [(evaluateFirst_of_batch_ok fresh hb).1] at hf
                cases hf
      | ok u =>
          obtain ⟨n, hr, -⟩ := step_of_first_ok hc going hf
          obtain ⟨begun, evaluated⟩ := h.after_evaluateFirst hf
          have criterion := (same_of_settings (settings_evaluateFirst s m o calls)).2.2.2.2.2
          rw [hr] at failed
          generalize (s.evaluateFirst m o calls).1.after = t at failed begun evaluated criterion
          obtain ⟨points, g, ht, -⟩ := begun.allTrials evaluated
          rcases hb : t.running.evaluateBatch m o n points with ⟨e' | es, k⟩
          · rw [evolve_of_batch_error ht hb] at failed
            cases failed
            exact Or.inl (begun.evaluateBatch_error (by rw [hb]))
          · rw [(evolve_of_batch_ok ht hb).1] at failed
            obtain ⟨rfl, c, hc, uncounted⟩ := askWatch_error (askWatch_of_checkStop failed)
            exact Or.inr ⟨rfl, c, criterion ▸ hc, uncounted⟩

end Sound

end Evolution

/-! ## Trials made step by step -/

/-- The strategy that makes its trials step by step, with every draw, swap and access checked. -/
def Differential.toCheckedStrategy [Scalar α] (d : Differential α) : Strategy α :=
  { d.toStrategy with generate := d.generateChecked }

namespace Evolution

variable [Scalar α] {s : Evolution α} {o : Objective α} {m : EvaluationMap α} {d : Differential α}
variable {size : Nat}

/-- The run with its trials made step by step. -/
def checked (d : Differential α) (s : Evolution α) : Evolution α :=
  { s with strategy := some d.toCheckedStrategy }

theorem evaluateFirst_checked (calls : Nat) :
    (s.checked d).evaluateFirst m o calls =
      ((s.evaluateFirst m o calls).1.lift (checked d), (s.evaluateFirst m o calls).2) := by
  have he : (s.checked d).evaluated = s.evaluated := rfl
  cases hs : s.evaluated with
  | true =>
      rw [evaluateFirst_of_evaluated hs, evaluateFirst_of_evaluated (he.trans hs)]
      rfl
  | false =>
      have hb : (s.checked d).evaluateBatch m o calls
          ((s.checked d).state.population.rows.map (s.checked d).finish) =
        s.evaluateBatch m o calls (s.state.population.rows.map s.finish) := rfl
      simp only [evaluateFirst, he, hs, Bool.false_eq_true, if_false, hb]
      rcases s.evaluateBatch m o calls (s.state.population.rows.map s.finish) with ⟨e | es, n⟩
      · rfl
      · rfl

theorem checkStop_checked : (s.checked d).checkStop = s.checkStop.lift (checked d) := by
  have ha : askWatch (s.checked d).state (s.checked d).watch = askWatch s.state s.watch := rfl
  have hl : (s.checked d).limits.reason? (s.checked d).state = s.limits.reason? s.state := rfl
  simp only [checkStop, ha, hl]
  rcases askWatch s.state s.watch with e | ⟨reason, watch⟩
  · rfl
  · simp only
    cases reason.or (s.limits.reason? s.state) with
    | none => rfl
    | some text => rfl

theorem trials_checked (table : s.state.population.Table s.dim) (wide : 0 < s.dim)
    (targets : List Nat) (g : Generator) :
    (s.checked d).trials d.toCheckedStrategy targets g = s.trials d.toStrategy targets g := by
  induction targets generalizing g with
  | nil => rfl
  | cons target targets ih =>
      have made : d.toCheckedStrategy.generate (s.checked d).state.population
          (s.checked d).state.energies target g =
        d.toStrategy.generate s.state.population s.state.energies target g :=
        Differential.generateChecked_eq table wide g
      simp only [trials, made]
      congr 1
      funext p
      rw [ih p.2]
      rfl

theorem commitGeneration_checked (trials : List (Point α × Float)) :
    (s.checked d).commitGeneration trials = (s.commitGeneration trials).lift (checked d) := by
  have asked := checkStop_checked (s := { s with state := select s.state trials }) (d := d)
  exact congrArg (Reply.preceded · _) asked

theorem evolve_checked (table : s.state.population.Table s.dim) (wide : 0 < s.dim) (calls : Nat) :
    (s.checked d).evolve d.toCheckedStrategy m o calls =
      ((s.evolve d.toStrategy m o calls).1.lift (checked d),
        (s.evolve d.toStrategy m o calls).2) := by
  have hs : (s.checked d).state = s.state := rfl
  have hg : (s.checked d).generator = s.generator := rfl
  simp only [evolve, hs, hg, trials_checked table wide]
  rcases s.trials d.toStrategy (List.range s.state.population.size) s.generator with e | ⟨points, g⟩
  · rfl
  have hb : (s.checked d).evaluateBatch m o calls points = s.evaluateBatch m o calls points := rfl
  simp only [hb]
  rcases s.evaluateBatch m o calls points with ⟨e | es, n⟩
  · rfl
  · exact congrArg (·, n) (commitGeneration_checked (s := { s with generator := g }) _)

/-- **A sound run does the same with its trials made step by step**: every step has the same
result, leaves the same solver behind, and reports the same. -/
theorem Sound.step_checked (h : s.Sound d.toStrategy m size) (wide : 0 < s.dim)
    (dimension : o.checkDimension s.dim = .ok ()) (calls : Nat) :
    (s.checked d).step o calls = ((s.step o calls).1.lift (checked d), (s.step o calls).2) := by
  have hc := h.checkReady dimension
  have hc' : (s.checked d).checkReady o = .ok (d.toCheckedStrategy, m) := by
    obtain ⟨ready, -, watch, batches, -, n, minimum, enough⟩ := checkReady_eq_ok_iff.1 hc
    exact checkReady_eq_ok_iff.2 ⟨ready, rfl, watch, batches, dimension, n, minimum, enough⟩
  have hs : (s.checked d).state = s.state := rfl
  unfold Evolution.step
  simp only [hc, hc', hs, evaluateFirst_checked]
  cases going : s.state.isTerminated with
  | true => rfl
  | false =>
      cases hf : (s.evaluateFirst m o calls).1.result with
      | error e =>
          rcases hx : s.evaluateFirst m o calls with ⟨⟨r, t, events⟩, n⟩
          rw [hx] at hf
          cases hf
          rfl
      | ok u =>
          have table := (h.after_evaluateFirst hf).1.table
          have dim := (same_of_settings (settings_evaluateFirst s m o calls)).1
          rcases hx : s.evaluateFirst m o calls with ⟨⟨r, t, events⟩, n⟩
          rw [hx] at hf table dim
          cases hf
          have evolved := evolve_checked (s := t.running) (o := o) (m := m) (d := d) table
            (dim.symm ▸ wide) n
          exact congrArg (fun r => (Reply.preceded r.1 events, r.2)) evolved

end Evolution
end BoxSearch

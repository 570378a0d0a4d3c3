import BoxSearch.Proofs.Criterion.Ordinal
import BoxSearch.Proofs.EvaluationMap.Matched
import BoxSearch.Proofs.Evolution.Coherence
import BoxSearch.Proofs.Solver.Settings

/-!
# Differential evolution only compares energies

A generation reads energies in four places: the strategy looks for the best member, a trial
is held against its target, the lowest energy against the best one, and the criterion has a
look at the state.  The first three compare and do nothing else, and so does an ordinal
criterion.  So two runs whose energies are matched go the same way.

* `Comparing` — a run that is set up so that energies are only compared;
* `Matched` — two runs that differ in nothing but matched energies;
* `step_matched` — on matched objectives their generations have the same results, and leave
  runs that are matched again.
-/

namespace BoxSearch

/-- Two replies have the same result and leave solvers in a relation; the events may
differ. -/
structure Reply.Tallies {σ α β : Type} (R : σ → σ → Prop) (r r' : Reply σ α β) : Prop where
  result : r'.result = r.result
  after : R r.after r'.after

variable {α : Type} {ρ : Float → Float → Prop}

/-! ## States -/

theorem State.Matched.withStatus {s t : State α} (h : s.Matched ρ t) (status : Status) :
    Matched ρ { s with status } { t with status } :=
  ⟨h.generation, h.evaluations, h.population, h.energies, h.bestSolution, h.bestEnergy, rfl⟩

theorem State.Matched.isTerminated {s t : State α} (h : s.Matched ρ t) :
    t.isTerminated = s.isTerminated := congrArg Status.isTerminated h.status

/-- At the start of a run every energy is infinity. -/
theorem State.matched_start (hρ : Energy.Matching ρ) (p : Population α) :
    (State.start p).Matched ρ (State.start p) :=
  ⟨rfl, rfl, rfl, Energy.replicate_infinity_matched hρ _, rfl, hρ.infinity, rfl⟩

theorem Limits.reason?_matched {s t : State α} (h : s.Matched ρ t) (l : Limits) :
    l.reason? t = l.reason? s := by
  simp only [reason?, h.generation, h.evaluations]

namespace Evolution

variable {es es' : List Float}

/-! ## Selection -/

/-- Two pairs are the same point with matched energies. -/
def PairMatched (ρ : Float → Float → Prop) (p p' : Point α × Float) : Prop :=
  p'.1 = p.1 ∧ ρ p.2 p'.2

theorem zip_matched (xs : List (Point α)) (h : List.Forall₂ ρ es es') :
    List.Forall₂ (PairMatched ρ) (xs.zip es) (xs.zip es') := by
  induction h generalizing xs with
  | nil =>
      rw [List.zip_nil_right]
      exact .nil
  | cons he _ ih =>
      cases xs with
      | nil => exact .nil
      | cons x xs => exact .cons ⟨rfl, he⟩ (ih xs)

theorem survivor_matched (hρ : Energy.Matching ρ) {p p' q q' : Point α × Float}
    (hp : PairMatched ρ p p') (hq : PairMatched ρ q q') :
    PairMatched ρ (survivor p q) (survivor p' q') := by
  by_cases hle : q.2 ≤ p.2
  · rw [survivor_of_le hle, survivor_of_le ((hρ.le_iff hq.2 hp.2).1 hle)]
    exact hq
  · rw [survivor_of_not_le hle, survivor_of_not_le fun h => hle ((hρ.le_iff hq.2 hp.2).2 h)]
    exact hp

theorem zipWith_survivor_matched (hρ : Energy.Matching ρ) {ps ps' qs qs' : List (Point α × Float)}
    (hp : List.Forall₂ (PairMatched ρ) ps ps') (hq : List.Forall₂ (PairMatched ρ) qs qs') :
    List.Forall₂ (PairMatched ρ) (List.zipWith survivor ps qs) (List.zipWith survivor ps' qs') := by
  induction hp generalizing qs qs' with
  | nil => exact .nil
  | cons h _ ih =>
      cases hq with
      | nil => exact .nil
      | cons hq hqs => exact .cons (survivor_matched hρ h hq) (ih hqs)

/-- Matched pairs have the same points, and matched energies. -/
theorem of_pairs_matched {ps ps' : List (Point α × Float)}
    (h : List.Forall₂ (PairMatched ρ) ps ps') :
    ps'.map (·.1) = ps.map (·.1) ∧ List.Forall₂ ρ (ps.map (·.2)) (ps'.map (·.2)) := by
  induction h with
  | nil => exact ⟨rfl, .nil⟩
  | cons hp _ ih => exact ⟨by rw [List.map_cons, List.map_cons, hp.1, ih.1], .cons hp.2 ih.2⟩

/-- **Selections between matched energies come out alike.** -/
theorem select_matched (hρ : Energy.Matching ρ) {a b : State α} (h : a.Matched ρ b)
    (points : List (Point α)) (he : List.Forall₂ ρ es es') :
    (select a (points.zip es)).Matched ρ (select b (points.zip es')) := by
  have members := zip_matched a.population.rows h.energies
  rw [← h.population] at members
  obtain ⟨rows, energies⟩ :=
    of_pairs_matched (zipWith_survivor_matched hρ members (zip_matched points he))
  obtain ⟨place, lowest⟩ := Energy.argmin_matched hρ energies
  have hlt := hρ.lt_iff lowest h.bestEnergy
  have hl : (points.zip es').length = (points.zip es).length := by
    rw [List.length_zip, List.length_zip, he.length_eq]
  have hpop := h.population
  unfold select
  rw [hpop] at rows energies place lowest hlt ⊢
  refine ⟨by simp only [h.generation], by simp only [h.evaluations, hl], by simp only [rows],
    energies, ?_, ?_, h.status⟩
  · simp only [rows, place, h.bestSolution, hlt]
  · dsimp only
    by_cases improves : (Energy.argmin ((List.zipWith survivor
        (a.population.rows.zip a.energies) (points.zip es)).map (·.2))).2 < a.bestEnergy
    · rw [if_pos improves, if_pos (hlt.1 improves)]
      exact lowest
    · rw [if_neg improves, if_neg fun h => improves (hlt.2 h)]
      exact h.bestEnergy

end Evolution

/-! ## The strategy -/

variable [Scalar α]

/-- A trial depends on the energies by the place of the lowest one. -/
theorem Differential.generate_matched (hρ : Energy.Matching ρ) {es es' : List Float}
    (h : List.Forall₂ ρ es es') (d : Differential α) (population : Population α) (target : Nat)
    (g : Generator) :
    d.toStrategy.generate population es' target g =
      d.toStrategy.generate population es target g := by
  simp only [toStrategy, generate, check, trial, h.length_eq, (Energy.argmin_matched hρ h).1]

namespace Evolution

variable {s t : Evolution α} {o o' : Objective α} {m : EvaluationMap α}
variable {es es' : List Float} {calls calls' : Nat}

/-! ## Matched runs -/

/-- The run with other commitments and another watch. -/
def recast (state : State α) (watch : Option Watch) (s : Evolution α) : Evolution α :=
  { s with state, watch }

/-- Two runs differ in nothing but the energies in their states and watches, and those are
matched. -/
def Matched (ρ : Float → Float → Prop) (s t : Evolution α) : Prop :=
  ∃ state watch, t = s.recast state watch ∧ s.state.Matched ρ state ∧
    Option.Rel (Watch.Matched ρ) s.watch watch

/-- A run in which energies are only compared: its trials are those of differential
evolution, its map is orderly, no penalty is added, and its criterion is ordinal. -/
structure Comparing (s : Evolution α) : Prop where
  strategy : ∀ x, s.strategy = some x → ∃ d : Differential α, x = d.toStrategy
  map : ∀ m, s.map = some m → m.Orderly
  unpenalised : s.constraints.penalty = none
  watch : Watch.Tests Test.ordinal s.watch

theorem Comparing.of_settings (h : s.Comparing) (same : t.settings = s.settings) :
    t.Comparing := by
  obtain ⟨_, _, strategy, map, constraints, watch⟩ := same_of_settings same
  exact ⟨strategy ▸ h.strategy, map ▸ h.map, constraints ▸ h.unpenalised, h.watch.of_same watch⟩

/-! ## The start of a run -/

theorem Comparing.prepare (h : s.Comparing) {box : Option (Box α)} {size : Nat}
    {seed : Seed} (success : (s.prepare box size seed).result = .ok ()) :
    (s.prepare box size seed).after.Comparing := by
  obtain ⟨generator, population, ha⟩ := prepare_ok success
  rw [ha]
  exact ⟨h.strategy, h.map, h.unpenalised, h.watch.of_same (Watch.map_criterion_map_reset s.watch)⟩

theorem prepare_matched (hρ : Energy.Matching ρ) {box : Option (Box α)} {size : Nat}
    {seed : Seed} (success : (s.prepare box size seed).result = .ok ()) :
    (s.prepare box size seed).after.Matched ρ (s.prepare box size seed).after := by
  obtain ⟨generator, population, ha⟩ := prepare_ok success
  rw [ha]
  exact ⟨_, _, rfl, State.matched_start hρ population, Watch.map_reset_matched s.watch⟩

theorem setInitialPopulation_matched (hρ : Energy.Matching ρ) (h : s.Matched ρ t)
    (p : Population α) :
    Answers (Matched ρ) (s.setInitialPopulation p) (t.setInitialPopulation p) := by
  obtain ⟨state, watch, rfl, hs, hw⟩ := h
  have hc : (s.recast state watch).checkUnstarted "initial population" =
    s.checkUnstarted "initial population" := rfl
  have hd : (s.recast state watch).dim = s.dim := rfl
  unfold setInitialPopulation
  rw [hc, hd]
  cases s.checkUnstarted "initial population" with
  | error e => exact .error e
  | ok u =>
      simp only [bind, Except.bind]
      split
      · exact .error _
      split
      · exact .error _
      · exact .ok ⟨_, watch, rfl, ⟨hs.generation, hs.evaluations, rfl,
          Energy.replicate_infinity_matched hρ _, rfl, hs.bestEnergy, hs.status⟩, hw⟩

theorem setInitialGuess_matched (h : s.Matched ρ t) (x : Point α) :
    Answers (Matched ρ) (s.setInitialGuess x) (t.setInitialGuess x) := by
  obtain ⟨state, watch, rfl, hs, hw⟩ := h
  have hc : (s.recast state watch).checkUnstarted "initial guess" =
    s.checkUnstarted "initial guess" := rfl
  have hd : (s.recast state watch).dim = s.dim := rfl
  have hp : (s.recast state watch).state.population = s.state.population := hs.population
  unfold setInitialGuess
  rw [hc, hd, hp]
  cases s.checkUnstarted "initial guess" with
  | error e => exact .error e
  | ok u =>
      simp only [bind, Except.bind]
      split
      · exact .error _
      split
      · exact .error _
      split
      · exact .error _
      · exact .ok ⟨_, watch, rfl, ⟨hs.generation, hs.evaluations, rfl, hs.energies, rfl,
          hs.bestEnergy, hs.status⟩, hw⟩

/-! ## The first population -/

theorem evaluateBatch_matched (orderly : m.Orderly) (unpenalised : s.constraints.penalty = none)
    (ho : o.Matched ρ o') (xs : List (Point α)) :
    Answers (List.Forall₂ ρ) (s.evaluateBatch m o calls xs).1
      (s.evaluateBatch m o' calls' xs).1 :=
  Batch.evaluate_matched orderly unpenalised ho _ calls calls' xs

theorem commitFirst_matched (hρ : Energy.Matching ρ) (h : s.Matched ρ t) (rows : List (Point α))
    (he : List.Forall₂ ρ es es') : (s.commitFirst rows es).Matched ρ (t.commitFirst rows es') := by
  obtain ⟨state, watch, rfl, hs, hw⟩ := h
  obtain ⟨place, lowest⟩ := Energy.argmin_matched hρ he
  refine ⟨_, watch, rfl, ⟨hs.generation, ?_, ?_, he, ?_, lowest, hs.status⟩, hw⟩
  · exact congrArg (· + rows.length) hs.evaluations
  · simp only [commitFirst, recast, hs.population]
  · show Population.row _ (Energy.argmin es').1 = Population.row _ (Energy.argmin es).1
    simp only [recast, hs.population, place]

theorem evaluateFirst_matched (hρ : Energy.Matching ρ) (orderly : m.Orderly)
    (unpenalised : s.constraints.penalty = none) (ho : o.Matched ρ o') (h : s.Matched ρ t)
    (calls calls' : Nat) :
    Reply.Tallies (Matched ρ) (s.evaluateFirst m o calls).1 (t.evaluateFirst m o' calls').1 := by
  have matched := h
  obtain ⟨state, watch, rfl, hs, hw⟩ := h
  have hf : (s.recast state watch).evaluated = s.evaluated := rfl
  cases he : s.evaluated with
  | true =>
      rw [evaluateFirst_of_evaluated he, evaluateFirst_of_evaluated (hf.trans he)]
      exact ⟨rfl, matched⟩
  | false =>
      have hrows : (s.recast state watch).firstRows = s.firstRows := by
        simp only [firstRows, recast, hs.population]
        rfl
      have batch : Answers (List.Forall₂ ρ) (s.evaluateBatch m o calls s.firstRows).1
          ((s.recast state watch).evaluateBatch m o' calls'
            (s.recast state watch).firstRows).1 := by
        rw [hrows]
        exact evaluateBatch_matched orderly unpenalised ho s.firstRows
      rcases hb : s.evaluateBatch m o calls s.firstRows with ⟨r, n⟩
      rcases hb' : (s.recast state watch).evaluateBatch m o' calls'
        (s.recast state watch).firstRows with ⟨r', n'⟩
      rw [hb, hb'] at batch
      cases batch with
      | error e =>
          rw [evaluateFirst_of_batch_error he hb, evaluateFirst_of_batch_error (hf.trans he) hb']
          exact ⟨rfl, matched⟩
      | ok hes =>
          obtain ⟨hr, ha⟩ := evaluateFirst_of_batch_ok he hb
          obtain ⟨hr', ha'⟩ := evaluateFirst_of_batch_ok (hf.trans he) hb'
          refine ⟨hr'.trans hr.symm, ?_⟩
          rw [ha, ha', hrows]
          exact commitFirst_matched hρ matched s.firstRows hes

theorem checkStop_matched (hρ : Energy.Matching ρ) (ordinal : Watch.Tests Test.ordinal s.watch)
    (h : s.Matched ρ t) : Reply.Tallies (Matched ρ) s.checkStop t.checkStop := by
  obtain ⟨state, watch, rfl, hs, hw⟩ := h
  obtain ⟨reason, v, v', hv, hv', kept⟩ := askWatch_matched hρ hs ordinal hw
  have hv'' : askWatch (s.recast state watch).state (s.recast state watch).watch =
    .ok (reason, v') := hv'
  have hl : (s.recast state watch).limits.reason? (s.recast state watch).state =
    s.limits.reason? s.state := s.limits.reason?_matched hs
  obtain ⟨hr, ha⟩ := checkStop_of_askWatch hv
  obtain ⟨hr', ha'⟩ := checkStop_of_askWatch hv''
  refine ⟨by rw [hr', hr, hl], ?_⟩
  have hl' : ({ s.recast state watch with watch := v' } : Evolution α).limits.reason?
    ({ s.recast state watch with watch := v' } : Evolution α).state =
      s.limits.reason? s.state := hl
  rw [ha, ha']
  simp only [concluded, hl']
  cases reason.or (s.limits.reason? s.state) with
  | none => exact ⟨_, v', rfl, hs, kept⟩
  | some text => exact ⟨_, v', rfl, hs.withStatus _, kept⟩

/-! ## A generation -/

theorem allTrials_matched (hρ : Energy.Matching ρ) (h : s.Matched ρ t) (d : Differential α) :
    t.allTrials d.toStrategy = s.allTrials d.toStrategy := by
  obtain ⟨state, watch, rfl, hs, _⟩ := h
  have generate : ∀ i g, d.toStrategy.generate state.population state.energies i g =
      d.toStrategy.generate s.state.population s.state.energies i g := fun i g => by
    rw [hs.population, d.generate_matched hρ hs.energies]
  have trials := trials_congr (s := s) (t := s.recast state watch) (fun _ => rfl) generate
    (List.range s.state.population.size) s.generator
  have size : (s.recast state watch).state.population.size = s.state.population.size :=
    congrArg Population.size hs.population
  rw [allTrials, allTrials, size]
  exact trials

theorem evolve_matched (hρ : Energy.Matching ρ) (comparing : s.Comparing) (orderly : m.Orderly)
    (ho : o.Matched ρ o') (h : s.Matched ρ t) (calls calls' : Nat) (d : Differential α) :
    Reply.Tallies (Matched ρ) (s.evolve d.toStrategy m o calls).1
      (t.evolve d.toStrategy m o' calls').1 := by
  have matched := h
  have trials := allTrials_matched hρ h d
  obtain ⟨state, watch, rfl, hs, hw⟩ := h
  rcases ht : s.allTrials d.toStrategy with e | ⟨points, g⟩
  · rw [evolve_of_trials_error ht, evolve_of_trials_error (trials.trans ht)]
    exact ⟨rfl, matched⟩
  have batch : Answers (List.Forall₂ ρ) (s.evaluateBatch m o calls points).1
      ((s.recast state watch).evaluateBatch m o' calls' points).1 :=
    evaluateBatch_matched orderly comparing.unpenalised ho points
  rcases hb : s.evaluateBatch m o calls points with ⟨r, n⟩
  rcases hb' : (s.recast state watch).evaluateBatch m o' calls' points with ⟨r', n'⟩
  rw [hb, hb'] at batch
  cases batch with
  | error e =>
      rw [evolve_of_batch_error ht hb, evolve_of_batch_error (trials.trans ht) hb']
      exact ⟨rfl, matched⟩
  | @ok es es' hes =>
      obtain ⟨hr, ha⟩ := evolve_of_batch_ok ht hb
      obtain ⟨hr', ha'⟩ := evolve_of_batch_ok (trials.trans ht) hb'
      have bred : (s.bred points g es).Matched ρ ((s.recast state watch).bred points g es') :=
        ⟨_, watch, rfl, select_matched hρ hs points hes, hw⟩
      have ordinal : Watch.Tests Test.ordinal (s.bred points g es).watch := comparing.watch
      obtain ⟨hr₂, ha₂⟩ := checkStop_matched hρ ordinal bred
      exact ⟨by rw [hr', hr₂, hr], by rw [ha, ha']; exact ha₂⟩

theorem checkReady_matched (ho : o.Matched ρ o') (h : s.Matched ρ t) :
    t.checkReady o' = s.checkReady o := by
  obtain ⟨state, watch, rfl, hs, hw⟩ := h
  have hn : watch.isNone = s.watch.isNone := by
    generalize s.watch = w at hw
    cases hw <;> rfl
  simp only [checkReady, recast, hn, ho.checkDimension, hs.population]

theorem running_matched (h : s.Matched ρ t) : s.running.Matched ρ t.running := by
  obtain ⟨state, watch, rfl, hs, hw⟩ := h
  exact ⟨_, watch, rfl, hs.withStatus .running, hw⟩

/-- **Matched runs make the same generation** on matched objectives, as far as energies are
only compared. -/
theorem step_matched (hρ : Energy.Matching ρ) (comparing : s.Comparing) (ho : o.Matched ρ o')
    (h : s.Matched ρ t) (calls calls' : Nat) :
    Reply.Tallies (Matched ρ) (s.step o calls).1 (t.step o' calls').1 := by
  have ready := checkReady_matched ho h
  have ended : t.state.isTerminated = s.state.isTerminated := by
    obtain ⟨state, watch, rfl, hs, _⟩ := h
    exact hs.isTerminated
  rcases hc : s.checkReady o with e | ⟨strategy, m⟩
  · rw [step_of_refused hc, step_of_refused (ready.trans hc)]
    exact ⟨rfl, h⟩
  cases going : s.state.isTerminated with
  | true =>
      rw [step_of_ended hc going, step_of_ended (ready.trans hc) (ended.trans going)]
      exact ⟨rfl, h⟩
  | false =>
      obtain ⟨_, hstrategy, _, hm, _⟩ := checkReady_eq_ok_iff.1 hc
      obtain ⟨d, rfl⟩ := comparing.strategy strategy hstrategy
      have orderly := comparing.map m hm
      obtain ⟨hr, ha⟩ :=
        evaluateFirst_matched hρ orderly comparing.unpenalised ho h calls calls'
      have begun : (s.evaluateFirst m o calls).1.after.running.Comparing :=
        comparing.of_settings (settings_evaluateFirst s m o calls)
      cases hf : (s.evaluateFirst m o calls).1.result with
      | error e =>
          obtain ⟨hr₁, ha₁⟩ := step_of_first_error hc going hf
          obtain ⟨hr₂, ha₂⟩ :=
            step_of_first_error (ready.trans hc) (ended.trans going) (hr.trans hf)
          exact ⟨by rw [hr₁, hr₂], by rw [ha₁, ha₂]; exact h⟩
      | ok u =>
          obtain ⟨n, hr₁, ha₁⟩ := step_of_first_ok hc going hf
          obtain ⟨n', hr₂, ha₂⟩ :=
            step_of_first_ok (ready.trans hc) (ended.trans going) (hr.trans hf)
          obtain ⟨hr₃, ha₃⟩ := evolve_matched hρ begun orderly ho (running_matched ha) n n' d
          exact ⟨by rw [hr₁, hr₂, hr₃], by rw [ha₁, ha₂]; exact ha₃⟩

end Evolution
end BoxSearch

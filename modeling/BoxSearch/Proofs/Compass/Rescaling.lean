import BoxSearch.Proofs.Evolution.Rescaling

/-!
# Compass search only compares energies

A compass search reads energies when it holds the lowest of the probes against the best
point, and when its criterion has a look at the state.  Its step lengths are halved when no
probe improves, so they too follow the comparisons.  `step_matched` says that two searches
whose energies are matched make the same generation.
-/

namespace BoxSearch
namespace Compass

variable {α : Type} [Scalar α] {ρ : Float → Float → Prop}
variable {s t : Compass α} {o o' : Objective α} {es es' : List Float} {calls calls' : Nat}

/-- The search with other commitments and another watch. -/
def recast (state : State α) (watch : Option Watch) (s : Compass α) : Compass α :=
  { s with state, watch }

/-- Two searches differ in nothing but the energies in their states and watches, and those
are matched. -/
def Matched (ρ : Float → Float → Prop) (s t : Compass α) : Prop :=
  ∃ state watch, t = s.recast state watch ∧ s.state.Matched ρ state ∧
    Option.Rel (Watch.Matched ρ) s.watch watch

/-- A search in which energies are only compared: its map is orderly, no penalty is added,
and its criterion is ordinal. -/
structure Comparing (s : Compass α) : Prop where
  map : s.map.Orderly
  unpenalised : s.constraints.penalty = none
  watch : Watch.Tests Test.ordinal s.watch

theorem Comparing.of_settings (h : s.Comparing) (same : t.settings = s.settings) :
    t.Comparing where
  map := by
    have kept : t.map = s.map := by simpa only [settings] using congrArg (·.map) same
    rw [kept]
    exact h.map
  unpenalised := by
    have kept : t.constraints = s.constraints := by
      simpa only [settings] using congrArg (·.constraints) same
    rw [kept]
    exact h.unpenalised
  watch := h.watch.of_same (Watch.map_reset_eq_iff.1 (congrArg (·.watch) same))

theorem evaluateBatch_matched (comparing : s.Comparing) (ho : o.Matched ρ o')
    (xs : List (Point α)) :
    Answers (List.Forall₂ ρ) (s.evaluateBatch o calls xs).1 (s.evaluateBatch o' calls' xs).1 :=
  Batch.evaluate_matched comparing.map comparing.unpenalised ho _ calls calls' xs

/-! ## The start of a run -/

theorem Comparing.prepare (h : s.Comparing) {box : Option (Box α)} {size : Nat}
    {seed : Seed} (success : (s.prepare box size seed).result = .ok ()) :
    (s.prepare box size seed).after.Comparing := by
  obtain ⟨steps, population, ha⟩ := prepare_ok success
  rw [ha]
  exact ⟨h.map, h.unpenalised, h.watch.of_same (Watch.map_criterion_map_reset s.watch)⟩

theorem prepare_matched (hρ : Energy.Matching ρ) {box : Option (Box α)} {size : Nat}
    {seed : Seed} (success : (s.prepare box size seed).result = .ok ()) :
    (s.prepare box size seed).after.Matched ρ (s.prepare box size seed).after := by
  obtain ⟨steps, population, ha⟩ := prepare_ok success
  rw [ha]
  exact ⟨_, _, rfl, State.matched_start hρ population, Watch.map_reset_matched s.watch⟩

theorem setInitialGuess_matched (h : s.Matched ρ t) (x : Point α) :
    Answers (Matched ρ) (s.setInitialGuess x) (t.setInitialGuess x) := by
  obtain ⟨state, watch, rfl, hs, hw⟩ := h
  have hr : (s.recast state watch).ready = s.ready := rfl
  have he : (s.recast state watch).evaluated = s.evaluated := rfl
  have hd : (s.recast state watch).dim = s.dim := rfl
  have hp : (s.recast state watch).state.population = s.state.population := hs.population
  unfold setInitialGuess
  rw [hr, he, hd, hp]
  split
  · exact .error _
  split
  · exact .error _
  split
  · exact .error _
  split
  · exact .error _
  · exact .ok ⟨_, watch, rfl, ⟨hs.generation, hs.evaluations, rfl, hs.energies, rfl,
      hs.bestEnergy, hs.status⟩, hw⟩

/-! ## The start point -/

theorem set_matched (h : List.Forall₂ ρ es es') {f f' : Float} (hf : ρ f f') :
    List.Forall₂ ρ (es.set 0 f) (es'.set 0 f') := by
  cases h with
  | nil => exact .nil
  | cons _ rest => exact .cons hf rest

theorem commitStart_matched (h : s.Matched ρ t) (x : Point α) {f f' : Float} (hf : ρ f f') :
    (s.commitStart x f).Matched ρ (t.commitStart x f') := by
  obtain ⟨state, watch, rfl, hs, hw⟩ := h
  refine ⟨_, watch, rfl,
    ⟨hs.generation, ?_, ?_, set_matched hs.energies hf, rfl, hf, hs.status⟩, hw⟩
  · exact congrArg (· + 1) hs.evaluations
  · exact congrArg (Population.setRow · 0 x) hs.population

theorem evaluateStart_matched (comparing : s.Comparing) (ho : o.Matched ρ o') (h : s.Matched ρ t)
    (calls calls' : Nat) :
    Reply.Tallies (Matched ρ) (s.evaluateStart o calls).1 (t.evaluateStart o' calls').1 := by
  have matched := h
  obtain ⟨state, watch, rfl, hs, hw⟩ := h
  have hf : (s.recast state watch).evaluated = s.evaluated := rfl
  have hp : (s.recast state watch).state.population.rows = s.state.population.rows :=
    congrArg Population.rows hs.population
  cases he : s.evaluated with
  | true =>
      rw [evaluateStart_of_evaluated he, evaluateStart_of_evaluated (hf.trans he)]
      exact ⟨rfl, matched⟩
  | false =>
      cases hr : s.state.population.rows with
      | nil =>
          rw [evaluateStart_of_empty he hr, evaluateStart_of_empty (hf.trans he) (hp.trans hr)]
          exact ⟨rfl, matched⟩
      | cons row rows =>
          have batch : Answers (List.Forall₂ ρ) (s.evaluateBatch o calls [s.finish row]).1
              ((s.recast state watch).evaluateBatch o' calls'
                [(s.recast state watch).finish row]).1 :=
            evaluateBatch_matched comparing ho [s.finish row]
          rcases hb : s.evaluateBatch o calls [s.finish row] with ⟨r, n⟩
          rcases hb' : (s.recast state watch).evaluateBatch o' calls'
            [(s.recast state watch).finish row] with ⟨r', n'⟩
          have length : ∀ vs, r = .ok vs → vs.length = 1 := fun vs hvs =>
            Batch.length_of_evaluate (show (s.evaluateBatch o calls [s.finish row]).1 = .ok vs by
              rw [hb, hvs])
          rw [hb, hb'] at batch
          cases batch with
          | error e =>
              rw [evaluateStart_of_batch_error he hr hb,
                evaluateStart_of_batch_error (hf.trans he) (hp.trans hr) hb']
              exact ⟨rfl, matched⟩
          | ok hes =>
              obtain ⟨h₁, ha⟩ := evaluateStart_of_batch_ok he hr hb
              obtain ⟨h₂, ha'⟩ := evaluateStart_of_batch_ok (hf.trans he) (hp.trans hr) hb'
              refine ⟨h₂.trans h₁.symm, ?_⟩
              rw [ha, ha']
              cases hes with
              | nil => cases length [] rfl
              | cons hv _ => exact commitStart_matched matched (s.finish row) hv

/-! ## A generation -/

/-- **Matched searches move alike**: to the same probe, or to half the step lengths. -/
theorem move_matched (hρ : Energy.Matching ρ) (h : s.Matched ρ t) (points : List (Point α))
    (he : List.Forall₂ ρ es es') : (s.move points es).Matched ρ (t.move points es') := by
  obtain ⟨state, watch, rfl, hs, hw⟩ := h
  obtain ⟨place, lowest⟩ := Energy.argmin_matched hρ he
  have hlt := hρ.lt_iff lowest hs.bestEnergy
  have hg : state.generation + 1 = s.state.generation + 1 := congrArg (· + 1) hs.generation
  have hn : state.evaluations + points.length = s.state.evaluations + points.length :=
    congrArg (· + points.length) hs.evaluations
  simp only [move, recast, place]
  by_cases improves : (Energy.argmin es).2 < s.state.bestEnergy
  · rw [if_pos improves, if_pos (hlt.1 improves)]
    exact ⟨_, watch, rfl, ⟨hg, hn, congrArg (Population.setRow · 0 _) hs.population,
      set_matched hs.energies lowest, rfl, lowest, hs.status⟩, hw⟩
  · rw [if_neg improves, if_neg fun h => improves (hlt.2 h)]
    exact ⟨_, watch, rfl, ⟨hg, hn, hs.population, hs.energies, hs.bestSolution, hs.bestEnergy,
      hs.status⟩, hw⟩

theorem checkStop_matched (hρ : Energy.Matching ρ) (ordinal : Watch.Tests Test.ordinal s.watch)
    (h : s.Matched ρ t) : Reply.Tallies (Matched ρ) s.checkStop t.checkStop := by
  obtain ⟨state, watch, rfl, hs, hw⟩ := h
  obtain ⟨reason, v, v', hv, hv', kept⟩ := askWatch_matched hρ hs ordinal hw
  have hv'' : askWatch (s.recast state watch).state (s.recast state watch).watch =
    .ok (reason, v') := hv'
  obtain ⟨hr, ha⟩ := checkStop_of_askWatch hv
  obtain ⟨hr', ha'⟩ := checkStop_of_askWatch hv''
  have own : ∀ w, ({ s.recast state watch with watch := w } : Compass α).ownReason? =
      s.ownReason? := fun w => by
    simp only [ownReason?, recast, s.limits.reason?_matched hs]
    rfl
  have own' : (s.recast state watch).ownReason? = s.ownReason? := own watch
  have own'' : ({ s with watch := v } : Compass α).ownReason? = s.ownReason? := rfl
  refine ⟨by rw [hr', hr, own'], ?_⟩
  rw [ha, ha']
  simp only [concluded, own, own'']
  cases reason.or s.ownReason? with
  | none => exact ⟨_, v', rfl, hs, kept⟩
  | some text => exact ⟨_, v', rfl, hs.withStatus _, kept⟩

theorem explore_matched (hρ : Energy.Matching ρ) (comparing : s.Comparing)
    (ho : o.Matched ρ o') (h : s.Matched ρ t) (calls calls' : Nat) :
    Reply.Tallies (Matched ρ) (s.explore o calls).1 (t.explore o' calls').1 := by
  have matched := h
  obtain ⟨state, watch, rfl, hs, hw⟩ := h
  have probes : (s.recast state watch).probes = s.probes := by
    have along : (s.recast state watch).probesAlong = s.probesAlong := by
      funext j
      simp only [probesAlong, recast, hs.bestSolution]
      rfl
    rw [Compass.probes, Compass.probes, along]
    rfl
  cases hp : s.probes with
  | error c =>
      rw [explore_of_probes_error hp, explore_of_probes_error (probes.trans hp)]
      exact ⟨rfl, matched⟩
  | ok points =>
      have batch : Answers (List.Forall₂ ρ) (s.evaluateBatch o calls points).1
          ((s.recast state watch).evaluateBatch o' calls' points).1 :=
        evaluateBatch_matched comparing ho points
      rcases hb : s.evaluateBatch o calls points with ⟨r, n⟩
      rcases hb' : (s.recast state watch).evaluateBatch o' calls' points with ⟨r', n'⟩
      rw [hb, hb'] at batch
      cases batch with
      | error e =>
          rw [explore_of_batch_error hp hb, explore_of_batch_error (probes.trans hp) hb']
          exact ⟨rfl, matched⟩
      | @ok es es' hes =>
          obtain ⟨hr, ha⟩ := explore_of_batch_ok hp hb
          obtain ⟨hr', ha'⟩ := explore_of_batch_ok (probes.trans hp) hb'
          have moved := comparing.of_settings (settings_move s points es)
          obtain ⟨hr₂, ha₂⟩ := checkStop_matched hρ moved.watch (move_matched hρ matched points hes)
          exact ⟨by rw [hr', hr₂, hr], by rw [ha, ha']; exact ha₂⟩

theorem running_matched (h : s.Matched ρ t) : s.running.Matched ρ t.running := by
  obtain ⟨state, watch, rfl, hs, hw⟩ := h
  exact ⟨_, watch, rfl, hs.withStatus .running, hw⟩

theorem advance_matched (hρ : Energy.Matching ρ) (comparing : s.Comparing)
    (ho : o.Matched ρ o') (h : s.Matched ρ t) (calls calls' : Nat) :
    Reply.Tallies (Matched ρ) (s.advance o calls).1 (t.advance o' calls').1 := by
  have ready : t.checkReady o' = s.checkReady o := by
    obtain ⟨state, watch, rfl, hs, _⟩ := h
    simp only [checkReady, recast, ho.checkDimension]
  have ended : t.state.isTerminated = s.state.isTerminated := by
    obtain ⟨state, watch, rfl, hs, _⟩ := h
    exact hs.isTerminated
  rcases hc : s.checkReady o with e | u
  · rw [advance_of_refused hc, advance_of_refused (ready.trans hc)]
    exact ⟨rfl, h⟩
  cases going : s.state.isTerminated with
  | true =>
      rw [advance_of_ended hc going, advance_of_ended (ready.trans hc) (ended.trans going)]
      exact ⟨rfl, h⟩
  | false =>
      obtain ⟨hr, ha⟩ := evaluateStart_matched comparing ho h calls calls'
      have begun : (s.evaluateStart o calls).1.after.running.Comparing :=
        comparing.of_settings (settings_evaluateStart s o calls)
      cases hf : (s.evaluateStart o calls).1.result with
      | error e =>
          obtain ⟨hr₁, ha₁⟩ := advance_of_start_error hc going hf
          obtain ⟨hr₂, ha₂⟩ :=
            advance_of_start_error (ready.trans hc) (ended.trans going) (hr.trans hf)
          exact ⟨by rw [hr₁, hr₂], by rw [ha₁, ha₂]; exact h⟩
      | ok v =>
          obtain ⟨n, hr₁, ha₁⟩ := advance_of_start_ok hc going hf
          obtain ⟨n', hr₂, ha₂⟩ :=
            advance_of_start_ok (ready.trans hc) (ended.trans going) (hr.trans hf)
          obtain ⟨hr₃, ha₃⟩ := explore_matched hρ begun ho (running_matched ha) n n'
          exact ⟨by rw [hr₁, hr₂, hr₃], by rw [ha₁, ha₂]; exact ha₃⟩

/-- **Matched searches make the same generation** on matched objectives, as far as energies
are only compared. -/
theorem step_matched (hρ : Energy.Matching ρ) (comparing : s.Comparing) (ho : o.Matched ρ o')
    (h : s.Matched ρ t) (calls calls' : Nat) :
    Reply.Tallies (Matched ρ) (s.step o calls).1 (t.step o' calls').1 := by
  obtain ⟨hr, ha⟩ := advance_matched hρ comparing ho h calls calls'
  refine ⟨by rw [step_result, step_result, hr], ?_⟩
  cases hs : (s.advance o calls).1.result with
  | ok b =>
      rw [step_of_advance_ok hs, step_of_advance_ok (hr.trans hs)]
      exact ha
  | error e =>
      -- what is taken back was matched before
      rw [(step_of_advance_error hs).2, (step_of_advance_error (hr.trans hs)).2]
      obtain ⟨_, watch, hadvanced, _, hw⟩ := ha
      obtain ⟨state, _, rfl, hstate, _⟩ := h
      rw [hadvanced]
      exact ⟨state, watch, rfl, hstate, hw⟩

end Compass
end BoxSearch

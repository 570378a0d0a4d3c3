import BoxSearch.Proofs.Ensemble.Agreement
import BoxSearch.Proofs.Ensemble.Generation
import BoxSearch.Proofs.Solver.Settings
import BoxSearch.Proofs.Solver.Steady

/-!
# Going back and going on

A checkpoint holds what a run commits, and neither the plug-ins nor what a criterion
remembers.  So going back to one brings a solver back only if nothing else in it has a
say in its next steps.  This file says when that is so.

* `Alike` — two solvers with the same settings and the same checkpoint.  They may differ
  in their tokens and in what their criteria remember, at every depth;
* `Memoryless` — the criteria of a solver read the current state alone, and its maps give
  the same answers whatever was evaluated before;
* `step_agree` — on a pure objective, the steps of two memoryless solvers that are alike
  have the same results and events, and leave solvers that are alike;
* `restored_replays` — so a solver that goes back to a checkpoint replays the run from it,
  whatever it did in between.
-/

namespace BoxSearch

/-! ## Differential evolution -/

namespace Evolution

variable {α : Type} [Scalar α]
variable {s t : Evolution α} {o : Objective α} {m : EvaluationMap α} {strategy : Strategy α}
variable {token : CancelToken} {watch : Option Watch} {calls : Nat}

/-- The solver with another token and another watch. -/
def refit (token : CancelToken) (watch : Option Watch) (s : Evolution α) : Evolution α :=
  { s with token, watch }

/-- Two solvers differ in nothing but the token and what the criterion remembers. -/
def Alike (s t : Evolution α) : Prop :=
  ∃ token watch, t = s.refit token watch ∧
    watch.map Watch.criterion = s.watch.map Watch.criterion

theorem criterion_of_settings (h : s.settings = t.settings) :
    s.watch.map Watch.criterion = t.watch.map Watch.criterion :=
  Watch.map_reset_eq_iff.1 (congrArg Evolution.watch h)

theorem alike_of_settings (hs : s.settings = t.settings) (state : s.state = t.state)
    (generator : s.generator = t.generator) (evaluated : s.evaluated = t.evaluated) :
    s.Alike t := by
  refine ⟨t.token, t.watch, ?_, (criterion_of_settings hs).symm⟩
  cases s
  cases t
  simp only [settings, mk.injEq] at hs
  simp_all [refit]

theorem evaluateFirst_refit :
    (s.refit token watch).evaluateFirst m o calls =
      ((s.evaluateFirst m o calls).1.lift (refit token watch), (s.evaluateFirst m o calls).2) := by
  have hf : (s.refit token watch).evaluated = s.evaluated := rfl
  cases hs : s.evaluated with
  | true =>
      rw [evaluateFirst_of_evaluated hs, evaluateFirst_of_evaluated (hf.trans hs)]
      rfl
  | false =>
      have hb : (s.refit token watch).evaluateBatch m o calls
          ((s.refit token watch).state.population.rows.map (s.refit token watch).finish) =
        s.evaluateBatch m o calls (s.state.population.rows.map s.finish) := rfl
      simp only [evaluateFirst, hf, hs, Bool.false_eq_true, if_false, hb]
      rcases s.evaluateBatch m o calls (s.state.population.rows.map s.finish) with ⟨e | es, n⟩
      · rfl
      · rfl

theorem checkStop_agree (reads : Watch.ReadsState s.watch)
    (same : watch.map Watch.criterion = s.watch.map Watch.criterion) :
    s.checkStop.Agree Alike (s.refit token watch).checkStop := by
  obtain ⟨reason, v, v', hv, hv', kept⟩ := askWatch_of_same s.state reads same
  have hv'' : askWatch (s.refit token watch).state (s.refit token watch).watch =
    .ok (reason, v') := hv'
  have hl : (s.refit token watch).limits.reason? (s.refit token watch).state =
    s.limits.reason? s.state := rfl
  simp only [checkStop, hv, hv'', hl]
  cases reason.or (s.limits.reason? s.state) with
  | none => exact ⟨rfl, rfl, token, v', rfl, kept⟩
  | some text => exact ⟨rfl, rfl, token, v', rfl, kept⟩

theorem evolve_agree (reads : Watch.ReadsState s.watch)
    (same : watch.map Watch.criterion = s.watch.map Watch.criterion) :
    (s.evolve strategy m o calls).1.Agree Alike
      ((s.refit token watch).evolve strategy m o calls).1 := by
  have alike : s.Alike (s.refit token watch) := ⟨token, watch, rfl, same⟩
  have ht : (s.refit token watch).trials strategy (List.range s.state.population.size) s.generator =
      s.trials strategy (List.range s.state.population.size) s.generator :=
    trials_congr (s := s) (t := s.refit token watch) (fun _ => rfl) (fun _ _ => rfl) _ _
  have hs : (s.refit token watch).state = s.state := rfl
  have hg : (s.refit token watch).generator = s.generator := rfl
  simp only [evolve, ht, hs, hg]
  rcases s.trials strategy (List.range s.state.population.size) s.generator with e | ⟨points, g⟩
  · exact ⟨rfl, rfl, alike⟩
  have hb : (s.refit token watch).evaluateBatch m o calls points =
    s.evaluateBatch m o calls points := rfl
  simp only [hb]
  rcases s.evaluateBatch m o calls points with ⟨e | es, n⟩
  · exact ⟨rfl, rfl, alike⟩
  · exact (checkStop_agree (s := { s with generator := g, state := _ }) reads same).preceded _

theorem step_agree (reads : Watch.ReadsState s.watch) (alike : s.Alike t) (o : Objective α)
    (calls : Nat) : (s.step o calls).1.Agree Alike (t.step o calls).1 := by
  obtain ⟨token, watch, rfl, same⟩ := alike
  have alike : s.Alike (s.refit token watch) := ⟨token, watch, rfl, same⟩
  have hc : (s.refit token watch).checkReady o = s.checkReady o := by
    have hn : watch.isNone = s.watch.isNone := by
      rw [← Option.isNone_map (f := Watch.criterion), same, Option.isNone_map]
    simp only [checkReady, refit, hn]
  have hst : (s.refit token watch).state = s.state := rfl
  unfold step
  rw [hc, hst]
  rcases s.checkReady o with e | ⟨strategy, m⟩
  · exact ⟨rfl, rfl, alike⟩
  cases s.state.isTerminated with
  | true => exact ⟨rfl, rfl, alike⟩
  | false =>
      have kept := criterion_of_settings (settings_evaluateFirst s m o calls)
      simp only [Bool.false_eq_true, if_false, evaluateFirst_refit]
      rcases hx : s.evaluateFirst m o calls with ⟨⟨e | u, begun, events⟩, n⟩ <;> rw [hx] at kept
      · exact ⟨rfl, rfl, token, watch, rfl, same.trans kept.symm⟩
      · refine Reply.Agree.preceded ?_ events
        exact evolve_agree (s := begun.running) (reads.of_same kept) (same.trans kept.symm)

end Evolution

/-! ## Compass search -/

namespace Compass

variable {α : Type} [Scalar α]
variable {s t : Compass α} {o : Objective α}
variable {token : CancelToken} {watch : Option Watch} {calls : Nat}

/-- The search with another token and another watch. -/
def refit (token : CancelToken) (watch : Option Watch) (s : Compass α) : Compass α :=
  { s with token, watch }

/-- Two searches differ in nothing but the token and what the criterion remembers. -/
def Alike (s t : Compass α) : Prop :=
  ∃ token watch, t = s.refit token watch ∧
    watch.map Watch.criterion = s.watch.map Watch.criterion

theorem criterion_of_settings (h : s.settings = t.settings) :
    s.watch.map Watch.criterion = t.watch.map Watch.criterion :=
  Watch.map_reset_eq_iff.1 (congrArg Compass.watch h)

theorem alike_of_settings (hs : s.settings = t.settings) (state : s.state = t.state)
    (steps : s.steps = t.steps) (evaluated : s.evaluated = t.evaluated) : s.Alike t := by
  refine ⟨t.token, t.watch, ?_, (criterion_of_settings hs).symm⟩
  cases s
  cases t
  simp only [settings, mk.injEq] at hs
  simp_all [refit]

theorem evaluateStart_refit :
    (s.refit token watch).evaluateStart o calls =
      ((s.evaluateStart o calls).1.lift (refit token watch), (s.evaluateStart o calls).2) := by
  unfold evaluateStart
  have hf : (s.refit token watch).evaluated = s.evaluated := rfl
  have hst : (s.refit token watch).state = s.state := rfl
  rw [hf, hst]
  cases s.evaluated with
  | true => rfl
  | false =>
      simp only [Bool.false_eq_true, if_false]
      cases s.state.population.rows with
      | nil => rfl
      | cons row rows =>
          have hb : (s.refit token watch).evaluateBatch o calls [(s.refit token watch).finish row] =
            s.evaluateBatch o calls [s.finish row] := rfl
          simp only [hb]
          rcases s.evaluateBatch o calls [s.finish row] with ⟨e | es, n⟩ <;> rfl

theorem checkStop_agree (reads : Watch.ReadsState s.watch)
    (same : watch.map Watch.criterion = s.watch.map Watch.criterion) :
    s.checkStop.Agree Alike (s.refit token watch).checkStop := by
  obtain ⟨reason, v, v', hv, hv', kept⟩ := askWatch_of_same s.state reads same
  have hv'' : askWatch (s.refit token watch).state (s.refit token watch).watch =
    .ok (reason, v') := hv'
  have hr : ∀ w : Option Watch, (if ({ s.refit token watch with watch := w } : Compass α).converged
      then some ({ s.refit token watch with watch := w } : Compass α).convergedReason
      else none).or ((s.refit token watch).limits.reason? (s.refit token watch).state) =
    s.ownReason? := fun _ => rfl
  have hr' : ∀ w : Option Watch, (if ({ s with watch := w } : Compass α).converged
      then some ({ s with watch := w } : Compass α).convergedReason
      else none).or (s.limits.reason? s.state) = s.ownReason? := fun _ => rfl
  simp only [checkStop, hv, hv'', hr, hr']
  cases reason.or s.ownReason? with
  | none => exact ⟨rfl, rfl, token, v', rfl, kept⟩
  | some text => exact ⟨rfl, rfl, token, v', rfl, kept⟩

theorem move_refit (points : List (Point α)) (es : List Float) :
    (s.refit token watch).move points es = (s.move points es).refit token watch := by
  unfold move refit
  dsimp only
  split <;> rfl

theorem explore_agree (reads : Watch.ReadsState s.watch)
    (same : watch.map Watch.criterion = s.watch.map Watch.criterion) :
    (s.explore o calls).1.Agree Alike ((s.refit token watch).explore o calls).1 := by
  have alike : s.Alike (s.refit token watch) := ⟨token, watch, rfl, same⟩
  have hp : (s.refit token watch).probes = s.probes := rfl
  simp only [explore, hp]
  cases s.probes with
  | error c => exact ⟨rfl, rfl, alike⟩
  | ok points =>
      have hb : (s.refit token watch).evaluateBatch o calls points =
        s.evaluateBatch o calls points := rfl
      simp only [hb]
      rcases s.evaluateBatch o calls points with ⟨e | es, n⟩
      · exact ⟨rfl, rfl, alike⟩
      · have kept := criterion_of_settings (settings_move s points es)
        simp only [commitGeneration, move_refit]
        exact (checkStop_agree (reads.of_same kept) (same.trans kept.symm)).preceded _

theorem advance_agree (reads : Watch.ReadsState s.watch)
    (same : watch.map Watch.criterion = s.watch.map Watch.criterion) :
    (s.advance o calls).1.Agree Alike ((s.refit token watch).advance o calls).1 := by
  have alike : s.Alike (s.refit token watch) := ⟨token, watch, rfl, same⟩
  have hc : (s.refit token watch).checkReady o = s.checkReady o := rfl
  have hst : (s.refit token watch).state = s.state := rfl
  unfold advance
  rw [hc, hst]
  rcases s.checkReady o with e | u
  · exact ⟨rfl, rfl, alike⟩
  cases s.state.isTerminated with
  | true => exact ⟨rfl, rfl, alike⟩
  | false =>
      have kept := criterion_of_settings (settings_evaluateStart s o calls)
      simp only [Bool.false_eq_true, if_false, evaluateStart_refit]
      rcases hx : s.evaluateStart o calls with ⟨⟨e | u, begun, events⟩, n⟩ <;> rw [hx] at kept
      · exact ⟨rfl, rfl, token, watch, rfl, same.trans kept.symm⟩
      · refine Reply.Agree.preceded ?_ events
        exact explore_agree (s := begun.running) (reads.of_same kept) (same.trans kept.symm)

theorem step_agree (reads : Watch.ReadsState s.watch) (alike : s.Alike t) (o : Objective α)
    (calls : Nat) : (s.step o calls).1.Agree Alike (t.step o calls).1 := by
  obtain ⟨token, watch, rfl, same⟩ := alike
  have advanced : (s.advance o calls).1.Agree Alike ((s.refit token watch).advance o calls).1 :=
    advance_agree reads same
  obtain ⟨hr, he, token', watch', ha, same'⟩ := advanced
  refine ⟨by rw [step_result, step_result, hr], by rw [events_step, events_step, he], ?_⟩
  cases h : (s.advance o calls).1.result with
  | ok b =>
      rw [step_of_advance_ok h, step_of_advance_ok (hr.trans h)]
      exact ⟨token', watch', ha, same'⟩
  | error e =>
      -- what is taken back is the same on both sides
      rw [(step_of_advance_error h).2, (step_of_advance_error (hr.trans h)).2, ha]
      exact ⟨token', watch', rfl, same'⟩

end Compass

/-! ## Ensembles -/

namespace Frame

variable {α : Type} [Scalar α] {f f' : Frame α}
variable {token : CancelToken} {watch : Option Watch}

/-- The frame with another token and another watch. -/
def refit (token : CancelToken) (watch : Option Watch) (f : Frame α) : Frame α :=
  { f with token, watch }

/-- Two frames differ in nothing but the token and what the criterion remembers. -/
def Alike (f f' : Frame α) : Prop :=
  ∃ token watch, f' = f.refit token watch ∧
    watch.map Watch.criterion = f.watch.map Watch.criterion

theorem criterion_of_settings (h : f.settings = f'.settings) :
    f.watch.map Watch.criterion = f'.watch.map Watch.criterion :=
  Watch.map_reset_eq_iff.1 (congrArg Frame.watch h)

theorem alike_of_settings (hs : f.settings = f'.settings) (state : f.state = f'.state)
    (stopped : f.stopped = f'.stopped) : f.Alike f' := by
  refine ⟨f'.token, f'.watch, ?_, (criterion_of_settings hs).symm⟩
  cases f
  cases f'
  simp only [settings, mk.injEq] at hs
  simp_all [refit]

theorem settings_of_alike (h : f.Alike f') : f.settings = f'.settings := by
  obtain ⟨token, watch, rfl, same⟩ := h
  simp only [settings, refit, Watch.map_reset_eq_iff.2 same]

theorem checkStop_agree (reads : Watch.ReadsState f.watch)
    (same : watch.map Watch.criterion = f.watch.map Watch.criterion) :
    f.checkStop.Agree Alike (f.refit token watch).checkStop := by
  obtain ⟨reason, v, v', hv, hv', kept⟩ := askWatch_of_same f.state reads same
  have hv'' : askWatch (f.refit token watch).state (f.refit token watch).watch =
    .ok (reason, v') := hv'
  have hst : (f.refit token watch).stopped = f.stopped := rfl
  have hl : (f.refit token watch).limits.reason? (f.refit token watch).state =
    f.limits.reason? f.state := rfl
  simp only [checkStop, hv, hv'', hst, hl]
  cases reason.or ((if f.stopped.all id then some "All members stopped" else none).or
      (f.limits.reason? f.state)) with
  | none => exact ⟨rfl, rfl, token, v', rfl, kept⟩
  | some text => exact ⟨rfl, rfl, token, v', rfl, kept⟩

theorem conclude_agree (reads : Watch.ReadsState f.watch) (alike : f.Alike f')
    (stopped : List Bool) (states : List (State α)) :
    (f.conclude stopped states).Agree Alike (f'.conclude stopped states) := by
  obtain ⟨token, watch, rfl, same⟩ := alike
  exact (checkStop_agree (f := f.aggregated stopped states) reads same).preceded _

end Frame

/-! ## Solvers -/

namespace Solver

variable {α : Type} [Scalar α]
variable {s t : Solver α} {f f' : Frame α} {build : Builder α} {members members' : List (Solver α)}
variable {moves moves' : List (Dispatch.Move (Solver α) α)} {o : Objective α}

/-- Two solvers were set up in the same way and have committed the same. -/
def Alike (s t : Solver α) : Prop := s.settings = t.settings ∧ s.checkpoint = t.checkpoint

theorem alike_evolution {s t : Evolution α} (h : s.Alike t) :
    (Solver.evolution s).Alike (.evolution t) := by
  obtain ⟨token, watch, rfl, same⟩ := h
  refine ⟨?_, rfl⟩
  simp only [settings, Evolution.settings, Evolution.refit, Watch.map_reset_eq_iff.2 same]

theorem alike_compass {s t : Compass α} (h : s.Alike t) :
    (Solver.compass s).Alike (.compass t) := by
  obtain ⟨token, watch, rfl, same⟩ := h
  refine ⟨?_, rfl⟩
  simp only [settings, Compass.settings, Compass.refit, Watch.map_reset_eq_iff.2 same]

/-- The members of two ensembles are alike one by one when their settings and their
checkpoints are the same. -/
theorem forall₂_alike_iff :
    List.Forall₂ Alike members members' ↔
      settingsAll members = settingsAll members' ∧ checkpoints members = checkpoints members' := by
  constructor
  · intro h
    induction h with
    | nil => exact ⟨rfl, rfl⟩
    | cons hm _ ih =>
        rw [settingsAll, settingsAll, checkpoints, checkpoints, hm.1, hm.2, ih.1, ih.2]
        exact ⟨rfl, rfl⟩
  · rintro ⟨hs, hc⟩
    induction members generalizing members' with
    | nil =>
        cases members' with
        | nil => exact .nil
        | cons m' ms' => cases hs
    | cons m ms ih =>
        cases members' with
        | nil => cases hs
        | cons m' ms' =>
            obtain ⟨hm, hms⟩ := List.cons.inj hs
            obtain ⟨hm', hms'⟩ := List.cons.inj hc
            exact .cons ⟨hm, hm'⟩ (ih hms hms')

theorem alike_ensemble (hf : f.Alike f') (hm : List.Forall₂ Alike members members') :
    (Solver.ensemble f build members).Alike (.ensemble f' build members') := by
  have hs := Frame.settings_of_alike hf
  obtain ⟨token, watch, rfl, _⟩ := hf
  obtain ⟨hms, hmc⟩ := forall₂_alike_iff.1 hm
  exact ⟨by rw [settings, settings, hs, hms], by rw [checkpoint, checkpoint, hmc]; rfl⟩

theorem exists_evolution {s : Evolution α} (h : (Solver.evolution s).Alike t) :
    ∃ s', t = .evolution s' ∧ s.Alike s' := by
  obtain ⟨hs, hc⟩ := h
  cases t with
  | evolution s' =>
      simp only [checkpoint, Checkpoint.evolution.injEq] at hc
      exact ⟨s', rfl, Evolution.alike_of_settings (Solver.evolution.inj hs) hc.1 hc.2.1 hc.2.2⟩
  | compass s' => cases hc
  | ensemble f build ms => cases hc

theorem exists_compass {s : Compass α} (h : (Solver.compass s).Alike t) :
    ∃ s', t = .compass s' ∧ s.Alike s' := by
  obtain ⟨hs, hc⟩ := h
  cases t with
  | compass s' =>
      simp only [checkpoint, Checkpoint.compass.injEq] at hc
      exact ⟨s', rfl, Compass.alike_of_settings (Solver.compass.inj hs) hc.1 hc.2.1 hc.2.2⟩
  | evolution s' => cases hc
  | ensemble f build ms => cases hc

theorem exists_ensemble (h : (Solver.ensemble f build members).Alike t) :
    ∃ f' members', t = .ensemble f' build members' ∧ f.Alike f' ∧
      List.Forall₂ Alike members members' := by
  obtain ⟨hs, hc⟩ := h
  cases t with
  | ensemble f' build' members' =>
      simp only [checkpoint, Checkpoint.ensemble.injEq] at hc
      simp only [settings, Solver.ensemble.injEq] at hs
      obtain ⟨hf, rfl, hm⟩ := hs
      exact ⟨f', members', rfl, Frame.alike_of_settings hf hc.1 hc.2.1,
        forall₂_alike_iff.2 ⟨hm, hc.2.2⟩⟩
  | evolution s' => cases hc
  | compass s' => cases hc

/-! ### Solvers that look at nothing else -/

mutual

/-- The criteria of a solver and of its members read the current state alone, and the
answers of its maps do not depend on the evaluations made before, as those of every orderly
map do not (`EvaluationMap.Orderly.steady`). -/
def Memoryless : Solver α → Prop
  | .evolution s => Watch.ReadsState s.watch ∧ ∀ m, s.map = some m → m.Steady
  | .compass s => Watch.ReadsState s.watch ∧ s.map.Steady
  | .ensemble f _ ms => Watch.ReadsState f.watch ∧ MemorylessAll ms

/-- The same of several solvers. -/
def MemorylessAll : List (Solver α) → Prop
  | [] => True
  | m :: ms => Memoryless m ∧ MemorylessAll ms

end

mutual

/-- Being memoryless is a matter of the settings. -/
theorem memoryless_settings_iff : ∀ s : Solver α, s.settings.Memoryless ↔ s.Memoryless
  | .evolution s => by
      simp only [settings, Memoryless, Evolution.settings, Watch.ReadsState, Watch.Tests,
        Option.map_map, Function.comp_def, Watch.criterion_reset]
  | .compass s => by
      simp only [settings, Memoryless, Compass.settings, Watch.ReadsState, Watch.Tests,
        Option.map_map, Function.comp_def, Watch.criterion_reset]
  | .ensemble f _ ms => by
      simp only [settings, Memoryless, Frame.settings, Watch.ReadsState, Watch.Tests,
        Option.map_map, Function.comp_def, Watch.criterion_reset, memorylessAll_settingsAll_iff ms]

theorem memorylessAll_settingsAll_iff :
    ∀ ms : List (Solver α), MemorylessAll (settingsAll ms) ↔ MemorylessAll ms
  | [] => Iff.rfl
  | m :: ms => and_congr (memoryless_settings_iff m) (memorylessAll_settingsAll_iff ms)

end

theorem Memoryless.of_settings (h : s.Memoryless) (same : t.settings = s.settings) :
    t.Memoryless := by
  rw [← memoryless_settings_iff, same, memoryless_settings_iff]
  exact h

/-! ### Generations -/

theorem turns_agree (stopped : List Bool) (hm : List.Forall₂ Alike members members')
    (hmoves : List.Forall₂ (Dispatch.MovesAgree Alike) moves moves') :
    List.Forall₂ (Dispatch.MovesAgree Alike) (turns stopped members moves)
      (turns stopped members' moves') := by
  unfold turns
  induction hm generalizing stopped moves moves' with
  | nil => exact .nil
  | cons halike _ ih =>
      cases stopped with
      | nil => exact .nil
      | cons flag stopped =>
          cases hmoves with
          | nil => exact .nil
          | cons hmove hrest =>
              refine .cons ?_ (ih stopped hrest)
              cases flag with
              | true => exact Dispatch.rest_agree halike
              | false => exact hmove

theorem Alike.state (h : s.Alike t) : t.state = s.state := by
  rw [← state_checkpoint (s := s), ← state_checkpoint (s := t), h.2]

theorem map_state_of_alike (h : List.Forall₂ Alike members members') :
    members'.map state = members.map state := by
  induction h with
  | nil => rfl
  | cons halike _ ih => rw [List.map_cons, List.map_cons, halike.state, ih]

/-- Members whose generation was taken back are as they were, but for what is no part of a
checkpoint. -/
theorem taken_back_alike (f : Frame α) (members : List (Solver α)) (o : Objective α)
    (calls : Nat) :
    List.Forall₂ Alike members (restoreAll (Dispatch.afters members
      (replies f members (Solver.moves o members) calls)) (checkpoints members)).2 := by
  refine forall₂_alike_iff.2 ⟨?_, (checkpoints_restoreAll_afters (keepShape_moves o members)).symm⟩
  rw [settingsAll_restoreAll, settingsAll_eq_map, settingsAll_eq_map]
  exact (map_afters f calls (settings_moves o members)).symm

/-- The generations of two ensembles agree when the moves of their members do. -/
theorem stepEnsemble_agree (reads : Watch.ReadsState f.watch) (hf : f.Alike f')
    (hm : List.Forall₂ Alike members members') (o : Objective α)
    (hmoves : List.Forall₂ (Dispatch.MovesAgree Alike) (Solver.moves o members)
      (Solver.moves o members')) (calls calls' : Nat) :
    (stepEnsemble f build members (Solver.moves o members) o calls).1.Agree Alike
      (stepEnsemble f' build members' (Solver.moves o members') o calls').1 := by
  obtain ⟨token, watch, rfl, same⟩ := hf
  have halike : f.Alike (f.refit token watch) := ⟨token, watch, rfl, same⟩
  have agree := Dispatch.run_agree f.map (turns_agree f.stopped hm hmoves) calls calls'
  have back := taken_back_alike f members o calls
  have back' := taken_back_alike (f.refit token watch) members' o calls'
  have hc : (f.refit token watch).checkReady o = f.checkReady o := rfl
  have hst : (f.refit token watch).state = f.state := rfl
  have hmap : (f.refit token watch).map = f.map := rfl
  have hstopped : (f.refit token watch).stopped = f.stopped := rfl
  unfold stepEnsemble
  rw [hc, hst]
  rcases f.checkReady o with e | u
  · exact ⟨rfl, rfl, alike_ensemble halike hm⟩
  cases f.state.isTerminated with
  | true => exact ⟨rfl, rfl, alike_ensemble halike hm⟩
  | false =>
      unfold replies at back back'
      rw [hmap, hstopped] at back'
      unfold turns at agree back back'
      simp only [Bool.false_eq_true, if_false, hmap, hstopped, ← hm.length_eq]
      generalize Dispatch.run f.map _ calls = run, Dispatch.run f.map _ calls' = run'
        at agree back back' ⊢
      rw [Dispatch.verdicts_agree f.map.name members.length agree, Dispatch.events_agree agree]
      have afters := Dispatch.afters_agree hm agree
      cases Dispatch.verdicts f.map.name members.length run.1 with
      | error e =>
          obtain ⟨hs, hcp⟩ := forall₂_alike_iff.1 hm
          obtain ⟨hs₁, hcp₁⟩ := forall₂_alike_iff.1 back
          obtain ⟨hs₂, hcp₂⟩ := forall₂_alike_iff.1 back'
          exact ⟨rfl, rfl, alike_ensemble halike (forall₂_alike_iff.2
            ⟨hs₁.symm.trans (hs.trans hs₂), hcp₁.symm.trans (hcp.trans hcp₂)⟩)⟩
      | ok stopped =>
          have conclusion := Frame.conclude_agree reads halike stopped
            ((Dispatch.afters members run.1).map state)
          rw [map_state_of_alike afters]
          exact ⟨conclusion.result, congrArg (Dispatch.events run.1 ++ ·) conclusion.events,
            alike_ensemble conclusion.after afters⟩

mutual

/-- **Solvers that are alike make the same generation** when they look at nothing that a
checkpoint leaves out: results and events are the same, and the solvers afterwards are
alike again. -/
theorem step_agree (pure : o.Pure) : ∀ s t : Solver α, s.Memoryless → s.Alike t →
    Dispatch.MovesAgree Alike (s.step o) (t.step o)
  | .evolution s, t, h, alike => by
      obtain ⟨t, rfl, alike'⟩ := exists_evolution alike
      intro calls calls'
      have same := Evolution.step_agree h.1 alike' o calls'
      rw [← Evolution.step_steady h.2 pure calls calls'] at same
      exact same.lift alike_evolution
  | .compass s, t, h, alike => by
      obtain ⟨t, rfl, alike'⟩ := exists_compass alike
      intro calls calls'
      have same := Compass.step_agree h.1 alike' o calls'
      rw [← Compass.step_steady h.2 pure calls calls'] at same
      exact same.lift alike_compass
  | .ensemble f build ms, t, h, alike => by
      obtain ⟨f', ms', rfl, hf, hm⟩ := exists_ensemble alike
      exact stepEnsemble_agree h.1 hf hm o (moves_agree pure ms ms' h.2 hm)

theorem moves_agree (pure : o.Pure) : ∀ ms ms' : List (Solver α), MemorylessAll ms →
    List.Forall₂ Alike ms ms' →
      List.Forall₂ (Dispatch.MovesAgree Alike) (Solver.moves o ms) (Solver.moves o ms')
  | [], [], _, _ => .nil
  | m :: ms, m' :: ms', h, hm =>
      .cons (step_agree pure m m' h.1 (List.forall₂_cons.1 hm).1)
        (moves_agree pure ms ms' h.2 (List.forall₂_cons.1 hm).2)

end

/-! ### Runs -/

/-- The steps on given objectives one after the other, as they are seen from outside: of
each of them the result, the events, and what is committed afterwards. -/
def chronicle : List (Objective α) → Solver α → Nat →
    List (Except SolverError Bool × List (Event α) × Checkpoint α)
  | [], _, _ => []
  | o :: os, s, calls =>
    let (reply, calls) := s.step o calls
    (reply.result, reply.events, reply.after.checkpoint) :: chronicle os reply.after calls

/-- Solvers that are alike have the same chronicle. -/
theorem chronicle_of_alike (os : List (Objective α)) (pure : ∀ o ∈ os, o.Pure)
    (h : s.Memoryless) (alike : s.Alike t) (calls calls' : Nat) :
    chronicle os t calls' = chronicle os s calls := by
  induction os generalizing s t calls calls' with
  | nil => rfl
  | cons o os ih =>
      have agree := step_agree (pure o List.mem_cons_self) s t h alike calls calls'
      have next := h.of_settings (settings_step o s calls)
      have rest := ih (fun o' ho => pure o' (List.mem_cons_of_mem _ ho)) next agree.after
        (s.step o calls).2 (t.step o calls').2
      simp only [chronicle]
      rw [agree.result, agree.events, agree.after.2, rest]

/-- Going back to a checkpoint of the same run makes a solver that is alike. -/
theorem restore_alike {usable : Objective α → Prop} {events : List (Event α)}
    (run : Reached usable s events t) :
    (t.restore s.checkpoint).1 = .ok () ∧ s.Alike (t.restore s.checkpoint).2 := by
  have same := settings_of_reached run
  have hshape : t.shape = s.checkpoint.shape := by
    rw [shape_checkpoint]
    exact shape_of_settings same
  obtain ⟨hr, hc⟩ := restore_of_shape t s.checkpoint hshape
  exact ⟨hr, ((settings_restore t s.checkpoint).trans same).symm, hc.symm⟩

/-- **A solver that goes back replays its run.**  Take any solver whose criteria read the
current state alone and whose maps do not count, at every depth, and let it come to `s` by
any calls; from there let it come to `t` by any further calls, on whatever objectives:
steps that succeed, fail or end the run, calls of `solve`, requests to stop.  Then `t` goes
back to the checkpoint of `s` without a refusal, what is committed is what was committed
in `s`, the state and its status included, and on pure objectives any sequence of steps
from there has the results, the events and the commitments that it has from `s`, whatever
was evaluated before. -/
theorem restored_replays {s₀ : Solver α} (memoryless : s₀.Memoryless)
    {before between : List (Event α)} (reached : Reached (fun _ => True) s₀ before s)
    (run : Reached (fun _ => True) s between t) :
    ∃ u, t.restore s.checkpoint = (.ok (), u) ∧ u.checkpoint = s.checkpoint ∧
      u.state = s.state ∧
      ∀ os : List (Objective α), (∀ o ∈ os, o.Pure) → ∀ calls calls',
        chronicle os u calls' = chronicle os s calls := by
  obtain ⟨accepted, alike⟩ := restore_alike run
  refine ⟨(t.restore s.checkpoint).2, Prod.ext accepted rfl, alike.2.symm, alike.state, ?_⟩
  intro os pure calls calls'
  exact chronicle_of_alike os pure (memoryless.of_settings (settings_of_reached reached)) alike
    calls calls'

/-! ### A pair that fails, goes on, and goes back -/

/-- A run of differential evolution and a compass search, stepped together. -/
def pair : Solver Float :=
  .ensemble pairFrame pairBuild
    [oneMember, .compass ((Compass.standard 1).prepare none 1 (.number 1)).after]

theorem pair_memoryless : pair.Memoryless := by
  refine ⟨nofun, ⟨?_, ?_⟩, ⟨nofun, EvaluationMap.serial_orderly.steady⟩, trivial⟩
  · rintro c ⟨⟩
    rfl
  · rintro m ⟨⟩
    exact EvaluationMap.serial_orderly.steady

/-- The pair after a generation, in which the run of differential evolution has ended. -/
def pairOnce : Solver Float := (pair.step (.ofFunction squares) 0).1.after

/-- What becomes of it by a generation that fails, two that succeed and a request to stop. -/
def pairLater : Solver Float :=
  ((pairOnce.step Evolution.downAtFifth 3).1.after.solve (fun _ => false) (.ofFunction squares) 0
    (some 2)).1.after.cancel

/-- The pair goes back by two generations and makes them once more, although its request to
stop is still there and other evaluations were made in between. -/
theorem restored_replays_pair :
    failsInEvaluation (pairOnce.step Evolution.downAtFifth 3).1.result = true ∧
      pairOnce.state.generation = 1 ∧ pairLater.state.generation = 3 ∧
      ∃ u, pairLater.restore pairOnce.checkpoint = (.ok (), u) ∧ u.state.generation = 1 ∧
        chronicle [.ofFunction squares, .ofFunction squares] u 20 =
          chronicle [.ofFunction squares, .ofFunction squares] pairOnce 4 := by
  have once : Reached (fun _ => True) pair _ pairOnce := .stepped 0 .start trivial
  have later : Reached (fun _ => True) pairOnce _ pairLater :=
    ((Reached.start.stepped 3 trivial).solved (fun _ => false) 0 (some 2) trivial).cancelled
  have generations : pairOnce.state.generation = 1 ∧ pairLater.state.generation = 3 := by
    decide +kernel
  obtain ⟨u, hu, _, hs, replay⟩ := restored_replays pair_memoryless once later
  refine ⟨by decide +kernel, generations.1, generations.2, u, hu, by rw [hs, generations.1], ?_⟩
  refine replay _ (fun o ho => ?_) 4 20
  simp only [List.mem_cons, List.not_mem_nil, or_false, or_self] at ho
  subst ho
  exact fun _ _ _ => rfl

end Solver
end BoxSearch

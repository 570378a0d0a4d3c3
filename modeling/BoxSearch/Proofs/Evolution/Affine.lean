import BoxSearch.Proofs.Criterion.Blind
import BoxSearch.Proofs.Evolution.Unfailing
import BoxSearch.Proofs.Sampling.Affine
import BoxSearch.Proofs.Solver.Settings
import BoxSearch.Proofs.Strategy.Affine

/-!
# Differential evolution in changed variables

Members, energies, counters and the generator go through a generation in ways that a change
of variables leaves alone: the draws, the mutants and the clips follow the change, crossover
and selection only choose, and the criterion looks at numbers that are no coordinates.

* `Covariant` — a run that is set up in this way;
* `changed` — the run in changed variables;
* `step_changed` — a generation of the changed run, on the objective of the changed points,
  has the result of the generation and leaves the changed run.
-/

namespace BoxSearch

/-! ## Batches -/

namespace EvaluationMap

variable {o : Objective Rat}

theorem each_objective (T : Change) (pure : o.Pure) {xs : List (Point Rat)}
    (hx : ∀ x ∈ xs, x.length = T.dim) (index calls calls' : Nat) :
    (each (T.objective o) index calls' (xs.map T.point)).1 = (each o index calls xs).1 := by
  induction xs generalizing index calls calls' with
  | nil => rfl
  | cons x xs ih =>
      obtain ⟨here, rest⟩ := List.forall_mem_cons.1 hx
      have value : (T.objective o).evaluateAt calls' index (T.point x) =
          o.evaluateAt calls index x := by
        rw [Objective.evaluateAt, T.eval_objective o calls' here, pure calls' calls x,
          Objective.evaluateAt]
      rw [List.map_cons, each_cons, each_cons, value, ih rest]

end EvaluationMap

namespace Evolution

variable {T : Change} {s : Evolution Rat} {o : Objective Rat} {m : EvaluationMap Rat}
variable {calls calls' : Nat}

/-- The run in changed variables. -/
def changed (T : Change) (s : Evolution Rat) : Evolution Rat :=
  { s with box := s.box.map T.box, state := T.state s.state }

/-- A run that does not depend on the choice of variables: its trials are those of
differential evolution, its map is orderly, nothing is repaired or penalised, its criterion
does not look at coordinates, it searches in a box, and everything has one dimension. -/
structure Covariant (T : Change) (s : Evolution Rat) : Prop where
  axes : s.dim = T.dim
  strategy : ∀ x, s.strategy = some x → ∃ d : Differential Rat, x = d.toStrategy
  map : ∀ m, s.map = some m → m.Orderly
  constraints : s.constraints = .none
  watch : Watch.Tests Test.coordinateFree s.watch
  box : ∃ b, s.box = some b ∧ b.dim = T.dim
  table : s.state.population.Table T.dim

namespace Covariant

/-! ## What a generation keeps -/

theorem length_finish (h : s.Covariant T) {x : Point Rat} (hx : x.length = T.dim) :
    (s.finish x).length = T.dim := by
  obtain ⟨b, hb, _⟩ := h.box
  rw [finish, clip, hb, h.constraints]
  exact (b.length_clip x).trans hx

theorem length_firstRows (h : s.Covariant T) : ∀ x ∈ s.firstRows, x.length = T.dim := by
  intro x hx
  obtain ⟨y, hy, rfl⟩ := List.mem_map.1 hx
  exact h.length_finish (h.table.lengths y hy)

theorem length_of_trials (h : s.Covariant T) {d : Differential Rat} {targets : List Nat}
    {g g' : Generator} {points : List (Point Rat)}
    (ht : s.trials d.toStrategy targets g = .ok (points, g')) :
    ∀ x ∈ points, x.length = T.dim := by
  induction targets generalizing g points with
  | nil =>
      cases ht
      exact nofun
  | cons i targets ih =>
      rw [trials] at ht
      cases hg : d.toStrategy.generate s.state.population s.state.energies i g with
      | error e => rw [hg] at ht; cases ht
      | ok p =>
          obtain ⟨x, g₁⟩ := p
          cases hrest : s.trials d.toStrategy targets g₁ with
          | error e => simp only [hg, hrest, bind, Except.bind] at ht; cases ht
          | ok q =>
              obtain ⟨rest, g₂⟩ := q
              simp only [hg, hrest, bind, Except.bind, Except.ok.injEq, Prod.mk.injEq] at ht
              obtain ⟨rfl, rfl⟩ := ht
              exact List.forall_mem_cons.2
                ⟨h.length_finish (d.fits _ _ _ _ _ _ _ h.table hg), ih hrest⟩

/-- Another state of a covariant run, under the same settings. -/
theorem of_settings {t : Evolution Rat} (h : s.Covariant T) (same : t.settings = s.settings)
    (table : t.state.population.Table T.dim) : t.Covariant T := by
  obtain ⟨dim, box, strategy, map, constraints, watch⟩ := same_of_settings same
  exact ⟨dim ▸ h.axes, strategy ▸ h.strategy, map ▸ h.map, constraints ▸ h.constraints,
    h.watch.of_same watch, box ▸ h.box, table⟩

theorem evaluateFirst (h : s.Covariant T) (m : EvaluationMap Rat) (o : Objective Rat)
    (calls : Nat) : (s.evaluateFirst m o calls).1.after.Covariant T := by
  cases hr : (s.evaluateFirst m o calls).1.result with
  | error e =>
      rw [evaluateFirst_error hr]
      exact h
  | ok u =>
      rcases evaluateFirst_ok hr with ⟨_, ha⟩ | ⟨_, es, _, ha⟩
      · rw [ha]
        exact h
      · rw [ha]
        exact h.of_settings rfl ⟨h.table.width, h.length_firstRows⟩

theorem running (h : s.Covariant T) : s.running.Covariant T := h.of_settings rfl h.table

/-- **A generation keeps a run covariant**, whatever becomes of it. -/
theorem step (h : s.Covariant T) (o : Objective Rat) (calls : Nat) :
    (s.step o calls).1.after.Covariant T := by
  refine h.of_settings (settings_step s o calls) ?_
  rcases after_step s o calls with ha | ⟨strategy, m, t, hc, _, hf, rfl, ha⟩
  · rw [ha]
    exact h.table
  have begun := (h.evaluateFirst m o calls).running
  rcases ha with ha | ⟨points, g, es, n, ht, _, ha⟩
  · rw [ha]
    exact begun.table
  · obtain ⟨_, hs, _⟩ := checkReady_eq_ok_iff.1 hc
    obtain ⟨d, rfl⟩ := h.strategy strategy hs
    have table := begun.table.select fun p (hp : p ∈ points.zip es) =>
      begun.length_of_trials ht _ (List.of_mem_zip hp).1
    rw [ha]
    rcases after_checkStop (bred _ points g es) with hc | ⟨reason, watch, _, hc⟩
    · rw [hc]
      exact table
    · rw [hc]
      unfold concluded
      split <;> exact table

/-! ## New points -/

theorem finish_changed (h : s.Covariant T) {x : Point Rat} (hx : x.length = T.dim) :
    (s.changed T).finish (T.point x) = T.point (s.finish x) := by
  obtain ⟨b, hb, hd⟩ := h.box
  have hb' : (s.changed T).box = some (T.box b) := congrArg (Option.map T.box) hb
  have hc : (s.changed T).constraints = .none := h.constraints
  rw [finish, clip, hb', hc, finish, clip, hb, h.constraints]
  exact T.clip_box hd hx

theorem firstRows_changed (h : s.Covariant T) :
    (s.changed T).firstRows = s.firstRows.map T.point := by
  show (s.state.population.rows.map T.point).map _ =
    (s.state.population.rows.map s.finish).map T.point
  rw [List.map_map, List.map_map]
  exact List.map_congr_left fun x hx => h.finish_changed (h.table.lengths x hx)

theorem evaluateBatch_changed (h : s.Covariant T) (orderly : m.Orderly) (pure : o.Pure)
    {xs : List (Point Rat)} (hx : ∀ x ∈ xs, x.length = T.dim) (calls calls' : Nat) :
    ((s.changed T).evaluateBatch m (T.objective o) calls' (xs.map T.point)).1 =
      (s.evaluateBatch m o calls xs).1 := by
  have unpenalised : s.constraints.penalty = none := by
    rw [h.constraints]
    rfl
  have unpenalised' : (s.changed T).constraints.penalty = none := unpenalised
  rw [evaluateBatch, Batch.evaluate_of_orderly orderly unpenalised', evaluateBatch,
    Batch.evaluate_of_orderly orderly unpenalised, orderly, orderly,
    EvaluationMap.each_objective T pure hx]

end Covariant

/-! ## The first population -/

theorem commitFirst_changed (rows : List (Point Rat)) (es : List Float) :
    (s.changed T).commitFirst (rows.map T.point) es = (s.commitFirst rows es).changed T := by
  have best := T.row_population { s.state.population with rows } (Energy.argmin es).1
  simp only [commitFirst, changed, Change.state, List.length_map]
  rw [← best]
  rfl

theorem evaluateFirst_changed (h : s.Covariant T) (orderly : m.Orderly) (pure : o.Pure)
    (calls calls' : Nat) :
    ((s.changed T).evaluateFirst m (T.objective o) calls').1.result =
        (s.evaluateFirst m o calls).1.result ∧
      ((s.changed T).evaluateFirst m (T.objective o) calls').1.after =
        (s.evaluateFirst m o calls).1.after.changed T := by
  have same : (s.changed T).evaluated = s.evaluated := rfl
  cases he : s.evaluated with
  | true =>
      rw [evaluateFirst_of_evaluated he, evaluateFirst_of_evaluated (same.trans he)]
      exact ⟨rfl, rfl⟩
  | false =>
      have batch := h.evaluateBatch_changed orderly pure h.length_firstRows calls calls'
      rw [← h.firstRows_changed] at batch
      rcases hb : s.evaluateBatch m o calls s.firstRows with ⟨r, n⟩
      rcases hb' : (s.changed T).evaluateBatch m (T.objective o) calls' (s.changed T).firstRows
        with ⟨r', n'⟩
      rw [hb, hb'] at batch
      cases batch
      cases r with
      | error e =>
          rw [evaluateFirst_of_batch_error he hb, evaluateFirst_of_batch_error (same.trans he) hb']
          exact ⟨rfl, rfl⟩
      | ok es =>
          obtain ⟨hr, ha⟩ := evaluateFirst_of_batch_ok he hb
          obtain ⟨hr', ha'⟩ := evaluateFirst_of_batch_ok (same.trans he) hb'
          refine ⟨hr'.trans hr.symm, ?_⟩
          rw [ha, ha', h.firstRows_changed, commitFirst_changed]

/-! ## A generation -/

/-- **The trials of the changed run are the changed trials**, with the same words taken. -/
theorem trials_changed (h : s.Covariant T) (d : Differential Rat) (targets : List Nat)
    (g : Generator) :
    (s.changed T).trials d.toStrategy targets g =
      (s.trials d.toStrategy targets g).map fun r => (r.1.map T.point, r.2) := by
  induction targets generalizing g with
  | nil => rfl
  | cons i targets ih =>
      have first : d.toStrategy.generate (s.changed T).state.population
          (s.changed T).state.energies i g =
            (d.toStrategy.generate s.state.population s.state.energies i g).map
              fun r => (T.point r.1, r.2) := d.generate_population T h.table g
      rw [trials, trials, first]
      cases hg : d.toStrategy.generate s.state.population s.state.energies i g with
      | error e => rfl
      | ok r =>
          obtain ⟨x, g₁⟩ := r
          have hx := h.finish_changed (d.fits _ _ _ _ _ _ _ h.table hg)
          simp only [Except.map, bind, Except.bind, ih g₁, hx]
          cases s.trials d.toStrategy targets g₁ with
          | error e => rfl
          | ok q => rfl

theorem allTrials_changed (h : s.Covariant T) (d : Differential Rat) :
    (s.changed T).allTrials d.toStrategy =
      (s.allTrials d.toStrategy).map fun r => (r.1.map T.point, r.2) := by
  rw [allTrials, allTrials]
  show (s.changed T).trials d.toStrategy (List.range (T.population s.state.population).size)
    s.generator = _
  rw [T.size_population, trials_changed h]

/-- A pair of a point and its energy, with the point changed. -/
def changePair (T : Change) (p : Point Rat × Float) : Point Rat × Float := (T.point p.1, p.2)

theorem survivor_changePair (p q : Point Rat × Float) :
    survivor (changePair T p) (changePair T q) = changePair T (survivor p q) := by
  have same : accepts (changePair T p) (changePair T q) = accepts p q := rfl
  unfold survivor
  rw [same]
  split <;> rfl

theorem zip_changePair (xs : List (Point Rat)) (es : List Float) :
    (xs.map T.point).zip es = (xs.zip es).map (changePair T) := by
  rw [List.zip_map_left]
  rfl

/-- **Selection only chooses.** -/
theorem select_changed (state : State Rat) (points : List (Point Rat)) (es : List Float) :
    select (T.state state) ((points.map T.point).zip es) =
      T.state (select state (points.zip es)) := by
  have members : survivors (T.state state) ((points.map T.point).zip es) =
      (survivors state (points.zip es)).map (changePair T) := by
    show List.zipWith survivor ((state.population.rows.map T.point).zip state.energies) _ = _
    rw [zip_changePair, zip_changePair, List.zipWith_map, survivors, List.map_zipWith]
    simp only [survivor_changePair]
  have rows : (survivors (T.state state) ((points.map T.point).zip es)).map (·.1) =
      ((survivors state (points.zip es)).map (·.1)).map T.point := by
    rw [members, List.map_map, List.map_map]
    rfl
  have energies : (survivors (T.state state) ((points.map T.point).zip es)).map (·.2) =
      (survivors state (points.zip es)).map (·.2) := by
    rw [members, List.map_map]
    rfl
  have count : ((points.map T.point).zip es).length = (points.zip es).length := by
    rw [zip_changePair, List.length_map]
  have best := T.row_population
    { state.population with rows := (survivors state (points.zip es)).map (·.1) }
    (Energy.argmin ((survivors state (points.zip es)).map (·.2))).1
  unfold survivors at rows energies best
  unfold select
  simp only [rows, energies, count]
  simp only [Change.state, apply_ite T.point, ← best]
  rfl

theorem bred_changed (points : List (Point Rat)) (g : Generator) (es : List Float) :
    (s.changed T).bred (points.map T.point) g es = (s.bred points g es).changed T := by
  show ({ s.changed T with
    generator := g
    state := select (T.state s.state) ((points.map T.point).zip es) } : Evolution Rat) = _
  rw [select_changed]
  rfl

theorem sameNumbers_state (T : Change) (state : State Rat) : state.SameNumbers (T.state state) :=
  ⟨rfl, rfl, rfl, rfl, rfl⟩

theorem concluded_changed (reason : Option String) :
    (s.changed T).concluded reason = (s.concluded reason).changed T := by
  have same : (s.changed T).limits.reason? (s.changed T).state = s.limits.reason? s.state := rfl
  unfold concluded
  rw [same]
  split <;> rfl

/-- The question whether the run ends has the same answer. -/
theorem checkStop_changed (free : Watch.Tests Test.coordinateFree s.watch) :
    (s.changed T).checkStop.result = s.checkStop.result ∧
      (s.changed T).checkStop.after = s.checkStop.after.changed T := by
  have asked : askWatch (s.changed T).state (s.changed T).watch = askWatch s.state s.watch :=
    askWatch_of_sameNumbers free (sameNumbers_state T s.state)
  have same : (s.changed T).limits.reason? (s.changed T).state = s.limits.reason? s.state := rfl
  cases ha : askWatch s.state s.watch with
  | error e =>
      rw [ha] at asked
      simp only [checkStop, ha, asked]
      exact ⟨rfl, rfl⟩
  | ok p =>
      obtain ⟨reason, watch⟩ := p
      obtain ⟨hr, hs⟩ := checkStop_of_askWatch ha
      obtain ⟨hr', hs'⟩ := checkStop_of_askWatch (asked.trans ha)
      rw [hr, hr', hs, hs', same]
      exact ⟨rfl, concluded_changed (T := T) (s := { s with watch }) reason⟩

theorem evolve_changed (h : s.Covariant T) (orderly : m.Orderly) (pure : o.Pure)
    (d : Differential Rat) (calls calls' : Nat) :
    ((s.changed T).evolve d.toStrategy m (T.objective o) calls').1.result =
        (s.evolve d.toStrategy m o calls).1.result ∧
      ((s.changed T).evolve d.toStrategy m (T.objective o) calls').1.after =
        (s.evolve d.toStrategy m o calls).1.after.changed T := by
  have trials := allTrials_changed h d
  cases ht : s.allTrials d.toStrategy with
  | error e =>
      rw [ht] at trials
      rw [evolve_of_trials_error ht, evolve_of_trials_error trials]
      exact ⟨rfl, rfl⟩
  | ok r =>
      obtain ⟨points, g⟩ := r
      rw [ht] at trials
      have lengths := h.length_of_trials ht
      have batch := h.evaluateBatch_changed orderly pure lengths calls calls'
      rcases hb : s.evaluateBatch m o calls points with ⟨r, n⟩
      rcases hb' : (s.changed T).evaluateBatch m (T.objective o) calls' (points.map T.point)
        with ⟨r', n'⟩
      rw [hb, hb'] at batch
      cases batch
      cases r with
      | error e =>
          rw [evolve_of_batch_error ht hb, evolve_of_batch_error trials hb']
          exact ⟨rfl, rfl⟩
      | ok es =>
          obtain ⟨hr, ha⟩ := evolve_of_batch_ok ht hb
          obtain ⟨hr', ha'⟩ := evolve_of_batch_ok trials hb'
          obtain ⟨hc, hc'⟩ := checkStop_changed (T := T) (s := s.bred points g es) h.watch
          rw [hr, ha, hr', ha', bred_changed]
          exact ⟨hc, hc'⟩

theorem checkReady_changed : (s.changed T).checkReady (T.objective o) = s.checkReady o := by
  have size : (s.changed T).state.population.size = s.state.population.size :=
    T.size_population s.state.population
  unfold checkReady
  rw [size]
  rfl

/-- **A generation in changed variables** has the result of the generation, and leaves the
changed run. -/
theorem step_changed (h : s.Covariant T) (pure : o.Pure) (calls calls' : Nat) :
    ((s.changed T).step (T.objective o) calls').1.result = (s.step o calls).1.result ∧
      ((s.changed T).step (T.objective o) calls').1.after = (s.step o calls).1.after.changed T := by
  have ready := checkReady_changed (T := T) (s := s) (o := o)
  cases hc : s.checkReady o with
  | error e =>
      rw [hc] at ready
      rw [step_of_refused hc, step_of_refused ready]
      exact ⟨rfl, rfl⟩
  | ok plugs =>
      obtain ⟨strategy, m⟩ := plugs
      rw [hc] at ready
      obtain ⟨_, hs, _, hm, _⟩ := checkReady_eq_ok_iff.1 hc
      obtain ⟨d, rfl⟩ := h.strategy strategy hs
      have orderly := h.map m hm
      have same : (s.changed T).state.isTerminated = s.state.isTerminated := rfl
      cases going : s.state.isTerminated with
      | true =>
          rw [step_of_ended hc going, step_of_ended ready (same.trans going)]
          exact ⟨rfl, rfl⟩
      | false =>
          obtain ⟨hr, ha⟩ := evaluateFirst_changed h orderly pure calls calls'
          cases hf : (s.evaluateFirst m o calls).1.result with
          | error e =>
              obtain ⟨hs, hs'⟩ := step_of_first_error hc going hf
              obtain ⟨ht, ht'⟩ := step_of_first_error ready (same.trans going) (hr.trans hf)
              rw [hs, hs', ht, ht']
              exact ⟨rfl, rfl⟩
          | ok u =>
              obtain ⟨n, hs, hs'⟩ := step_of_first_ok hc going hf
              obtain ⟨n', ht, ht'⟩ := step_of_first_ok ready (same.trans going) (hr.trans hf)
              have begun := (h.evaluateFirst m o calls).running
              rw [hs, hs', ht, ht', ha]
              exact evolve_changed begun orderly pure d n n'

/-! ## The start of a run -/

/-- **A run in a changed box starts as the changed run.** -/
theorem prepare_changed (T : Change) {b : Box Rat} (hb : b.dim = T.dim) (size : Nat)
    (seed : Seed) (prepared : (s.prepare (some b) size seed).result = .ok ()) :
    (s.prepare (some (T.box b)) size seed).result = .ok () ∧
      (s.prepare (some (T.box b)) size seed).after =
        (s.prepare (some b) size seed).after.changed T := by
  have start : checkStart s.dim (some (T.box b)) size = checkStart s.dim (some b) size := by
    simp only [checkStart, checkBox, T.dim_box hb, hb]
  have drawn : s.init.draw size (drawBox s.dim (some (T.box b))) seed.generator = _ :=
    s.init.draw_box T hb size seed.generator
  cases hc : checkStart s.dim (some b) size with
  | error e =>
      simp only [prepare, hc] at prepared
      cases prepared
  | ok u =>
      simp only [prepare, start, hc, drawn, Reply.done]
      refine ⟨trivial, ?_⟩
      simp only [changed, Change.state, State.start, T.size_population, T.row_population]
      rfl

theorem covariant_prepare {b : Box Rat} {size : Nat} {seed : Seed}
    (prepared : (s.prepare (some b) size seed).result = .ok ()) (axes : s.dim = T.dim)
    (strategy : ∀ x, s.strategy = some x → ∃ d : Differential Rat, x = d.toStrategy)
    (map : ∀ m, s.map = some m → m.Orderly) (constraints : s.constraints = .none)
    (watch : Watch.Tests Test.coordinateFree s.watch) :
    (s.prepare (some b) size seed).after.Covariant T := by
  cases hc : checkStart s.dim (some b) size with
  | error e =>
      simp only [prepare, hc] at prepared
      cases prepared
  | ok u =>
      obtain ⟨_, _, dim⟩ := drawn_of_checkStart hc
      obtain ⟨table, _⟩ := s.init.table_draw size (drawBox s.dim (some b)) seed.generator
      rw [dim, axes] at table
      simp only [prepare, hc, Reply.done]
      exact ⟨axes, strategy, map, constraints,
        watch.of_same (Watch.map_criterion_map_reset s.watch), ⟨b, rfl, dim.trans axes⟩, table⟩

end Evolution
end BoxSearch

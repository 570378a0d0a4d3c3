import BoxSearch.Proofs.Compass.Step
import BoxSearch.Proofs.Criterion.Memoryless
import BoxSearch.Proofs.Evolution.Invariant
import BoxSearch.Proofs.Solver.Restore

/-!
# What a run does not change

A solver is made of two parts.  One is what a run commits, and a checkpoint is a copy of
it.  The other one is how the run was set up: the dimension, the box, the plug-ins, the
caps, and the criterion apart from what it remembers.  `settings` is a solver with nothing
but the second part, and this file says that it is the same all along a run.

* `settings_step` — a generation keeps the settings, whatever becomes of it;
* `settings_restore` — going back to a checkpoint keeps them, also where it is refused
  half-way;
* `settings_of_reached` — so they are the same wherever a user's calls lead.
-/

namespace BoxSearch

/-- Asking changes nothing that outlasts a reset. -/
theorem reset_of_askWatch {α : Type} [Scalar α] {s : State α} {w w' : Option Watch}
    {reason : Option String} (h : askWatch s w = .ok (reason, w')) :
    w'.map Watch.reset = w.map Watch.reset :=
  Watch.map_reset_eq_iff.2 (criterion_of_askWatch h)

/-! ## Differential evolution -/

namespace Evolution

variable {α : Type} [Scalar α] {s t : Evolution α}

/-- The solver without what a run changes. -/
def settings (s : Evolution α) : Evolution α :=
  { s with
    generator := .ofSeed 0
    state := .empty s.dim
    evaluated := false
    token := .fresh
    watch := s.watch.map Watch.reset }

/-- What two solvers with the same settings have in common. -/
theorem same_of_settings (same : t.settings = s.settings) :
    t.dim = s.dim ∧ t.box = s.box ∧ t.strategy = s.strategy ∧ t.map = s.map ∧
      t.constraints = s.constraints ∧ t.watch.map Watch.criterion = s.watch.map Watch.criterion :=
  ⟨congrArg (·.dim) same, congrArg (·.box) same, congrArg (·.strategy) same,
    congrArg (·.map) same, congrArg (·.constraints) same,
    Watch.map_reset_eq_iff.1 (congrArg (·.watch) same)⟩

theorem settings_concluded (s : Evolution α) (reason : Option String) :
    (s.concluded reason).settings = s.settings := by
  unfold concluded
  split <;> rfl

theorem settings_checkStop (s : Evolution α) : s.checkStop.after.settings = s.settings := by
  rcases after_checkStop s with ha | ⟨reason, watch, hask, ha⟩
  · rw [ha]
  · rw [ha, settings_concluded]
    simp only [settings, reset_of_askWatch hask]

theorem settings_evaluateFirst (s : Evolution α) (m : EvaluationMap α) (o : Objective α)
    (calls : Nat) : (s.evaluateFirst m o calls).1.after.settings = s.settings := by
  cases hr : (s.evaluateFirst m o calls).1.result with
  | error e => rw [evaluateFirst_error hr]
  | ok u =>
      rcases evaluateFirst_ok hr with ⟨_, ha⟩ | ⟨_, es, _, ha⟩
      · rw [ha]
      · rw [ha]
        rfl

theorem settings_step (s : Evolution α) (o : Objective α) (calls : Nat) :
    (s.step o calls).1.after.settings = s.settings := by
  rcases after_step s o calls with ha | ⟨strategy, map, t, _, _, _, rfl, ha⟩
  · rw [ha]
  · have ht : (s.evaluateFirst map o calls).1.after.running.settings = s.settings :=
      settings_evaluateFirst s map o calls
    rcases ha with ha | ⟨points, g, es, n, _, _, ha⟩
    · rw [ha, ht]
    · rw [ha, settings_checkStop]
      exact ht

end Evolution

/-! ## Compass search -/

namespace Compass

variable {α : Type} [Scalar α] {s t : Compass α}

/-- The search without what a run changes. -/
def settings (s : Compass α) : Compass α :=
  { s with
    steps := []
    state := .empty s.dim
    evaluated := false
    token := .fresh
    watch := s.watch.map Watch.reset }

theorem settings_concluded (s : Compass α) (reason : Option String) :
    (s.concluded reason).settings = s.settings := by
  unfold concluded
  split <;> rfl

theorem settings_evaluateStart (s : Compass α) (o : Objective α) (calls : Nat) :
    (s.evaluateStart o calls).1.after.settings = s.settings := by
  cases hr : (s.evaluateStart o calls).1.result with
  | error e => rw [evaluateStart_error hr]
  | ok u =>
      rcases evaluateStart_ok hr with ⟨_, ha⟩ | ⟨_, _, _, _, _, _, ha⟩
      · rw [ha]
      · rw [ha]
        rfl

theorem settings_move (s : Compass α) (points : List (Point α)) (es : List Float) :
    (s.move points es).settings = s.settings := by
  simp only [move]
  split <;> rfl

theorem settings_step (s : Compass α) (o : Objective α) (calls : Nat) :
    (s.step o calls).1.after.settings = s.settings := by
  cases hr : (s.step o calls).1.result with
  | error e => rw [step_error hr]
  | ok b =>
      obtain ⟨_, ⟨_, _, ha⟩ | ⟨_, _, t, points, es, n, rfl, _, _, hs, ha⟩⟩ := step_ok hr
      · rw [ha]
      · obtain ⟨reason, watch, hask, _, hc⟩ := checkStop_ok hs
        have hmove := settings_move (s.evaluateStart o calls).1.after.running points es
        have ht : (s.evaluateStart o calls).1.after.running.settings = s.settings :=
          settings_evaluateStart s o _
        rw [ha, hc, settings_concluded, ← ht, ← hmove]
        simp only [settings, reset_of_askWatch hask]

end Compass

/-! ## Ensembles -/

namespace Frame

variable {α : Type} [Scalar α] {f : Frame α}

/-- The frame without what a run changes. -/
def settings (f : Frame α) : Frame α :=
  { f with
    stopped := []
    state := .empty f.dim
    token := .fresh
    watch := f.watch.map Watch.reset }

theorem settings_concluded (f : Frame α) (reason : Option String) :
    (f.concluded reason).settings = f.settings := by
  unfold concluded
  split <;> rfl

theorem settings_conclude (f : Frame α) (stopped : List Bool) (states : List (State α)) :
    (f.conclude stopped states).after.settings = f.settings := by
  change (f.aggregated stopped states).checkStop.after.settings =
    (f.aggregated stopped states).settings
  generalize f.aggregated stopped states = f
  cases ha : askWatch f.state f.watch with
  | error e => rw [checkStop_of_askWatch_error ha]; rfl
  | ok p =>
      rw [(checkStop_of_askWatch ha).2, settings_concluded]
      simp only [settings, reset_of_askWatch ha]

end Frame

/-! ## Solvers -/

namespace Solver

variable {α : Type} [Scalar α] {s t : Solver α}

mutual

/-- The solver without what a run changes, in every member. -/
def settings : Solver α → Solver α
  | .evolution s => .evolution s.settings
  | .compass s => .compass s.settings
  | .ensemble f build ms => .ensemble f.settings build (settingsAll ms)

/-- Several solvers without what a run changes. -/
def settingsAll : List (Solver α) → List (Solver α)
  | [] => []
  | m :: ms => settings m :: settingsAll ms

end

theorem settingsAll_eq_map (ms : List (Solver α)) : settingsAll ms = ms.map settings := by
  induction ms with
  | nil => rfl
  | cons m ms ih => exact congrArg (settings m :: ·) ih

mutual

theorem shape_settings : ∀ s : Solver α, s.settings.shape = s.shape
  | .evolution _ => rfl
  | .compass _ => rfl
  | .ensemble _ _ ms => congrArg Shape.ensemble (shapes_settingsAll ms)

theorem shapes_settingsAll : ∀ ms : List (Solver α), shapes (settingsAll ms) = shapes ms
  | [] => rfl
  | m :: ms => by rw [settingsAll, shapes, shapes, shape_settings m, shapes_settingsAll ms]

end

/-- Solvers with the same settings have the same shape. -/
theorem shape_of_settings (h : s.settings = t.settings) : s.shape = t.shape := by
  rw [← shape_settings s, ← shape_settings t, h]

@[simp]
theorem settings_setToken (s : Solver α) (token : CancelToken) :
    (s.setToken token).settings = s.settings := by
  cases s <;> rfl

@[simp]
theorem settings_setState (s : Solver α) (state : State α) :
    (s.setState state).settings = s.settings := by
  cases s <;> rfl

theorem settings_setInitialPopulation {p : Population α}
    (h : s.setInitialPopulation p = .ok t) : t.settings = s.settings := by
  cases s with
  | evolution s =>
      obtain ⟨u, hu, rfl⟩ := Evolution.exists_of_map_eq_ok h
      obtain ⟨_, _, _, _, rfl⟩ := Evolution.setInitialPopulation_ok hu
      rfl
  | compass s => cases h; rfl
  | ensemble f build ms => cases h; rfl

theorem settings_setInitialGuess {x : Point α} (h : s.setInitialGuess x = .ok t) :
    t.settings = s.settings := by
  cases s with
  | evolution s =>
      obtain ⟨u, hu, rfl⟩ := Evolution.exists_of_map_eq_ok h
      obtain ⟨_, _, _, rfl⟩ := Evolution.setInitialGuess_ok hu
      rfl
  | compass s =>
      obtain ⟨u, hu, rfl⟩ := Evolution.exists_of_map_eq_ok h
      obtain ⟨_, _, rfl⟩ := Compass.setInitialGuess_ok hu
      rfl
  | ensemble f build ms => cases h; rfl

/-! ### Going back -/

mutual

/-- **Going back to a checkpoint keeps the settings**, also where it is refused after some
members went back. -/
theorem settings_restore : ∀ (s : Solver α) (c : Checkpoint α),
    (s.restore c).2.settings = s.settings
  | .evolution _, .evolution .. => rfl
  | .compass _, .compass .. => rfl
  | .ensemble f build ms, .ensemble state stopped cs => by
      have hs := settingsAll_restoreAll ms cs
      simp only [restore]
      by_cases hl : cs.length ≠ ms.length
      · rw [if_pos hl]
      · rw [if_neg hl]
        rcases hx : restoreAll ms cs with ⟨e | u, ns⟩
        · rw [hx] at hs
          exact congrArg (Solver.ensemble f.settings build) hs
        · rw [hx] at hs
          exact congrArg (Solver.ensemble f.settings build) hs
  | .evolution _, .compass .. => rfl
  | .evolution _, .ensemble .. => rfl
  | .compass _, .evolution .. => rfl
  | .compass _, .ensemble .. => rfl
  | .ensemble .., .evolution .. => rfl
  | .ensemble .., .compass .. => rfl

theorem settingsAll_restoreAll : ∀ (ms : List (Solver α)) (cs : List (Checkpoint α)),
    settingsAll (restoreAll ms cs).2 = settingsAll ms
  | [], _ => by cases ‹List (Checkpoint α)› <;> rfl
  | _ :: _, [] => rfl
  | m :: ms, c :: cs => by
      have hm := settings_restore m c
      have hms := settingsAll_restoreAll ms cs
      rcases hx : restore m c with ⟨e | u, n⟩
      · rw [hx] at hm
        simp only [restoreAll, hx, settingsAll]
        rw [hm]
      · rw [hx] at hm
        simp only [restoreAll, hx, settingsAll]
        rw [hm, hms]

end

/-! ### Generations -/

variable {f : Frame α} {build : Builder α} {members : List (Solver α)} {o : Objective α}
variable {moves : List (Dispatch.Move (Solver α) α)}

theorem settings_stepEnsemble (calls : Nat)
    (h : ∀ (i : Nat) m move, members[i]? = some m → moves[i]? = some move →
      ∀ calls, (move calls).1.after.settings = m.settings) :
    (stepEnsemble f build members moves o calls).1.after.settings =
      (Solver.ensemble f build members).settings := by
  have kept : settingsAll (Dispatch.afters members (replies f members moves calls)) =
      settingsAll members := by
    rw [settingsAll_eq_map, settingsAll_eq_map]
    exact map_afters f calls h
  rcases hc : f.checkReady o with e | u
  · rw [stepEnsemble_of_refused hc]
    rfl
  cases going : f.state.isTerminated with
  | true =>
      rw [stepEnsemble_of_ended hc going]
      rfl
  | false =>
      rcases hv : Dispatch.verdicts f.map.name members.length (replies f members moves calls) with
        e | flags
      · rw [(stepEnsemble_of_verdicts_error build hc going hv).2, settings, settings,
          settingsAll_restoreAll, kept]
      · rw [(stepEnsemble_of_verdicts_ok build hc going hv).2, settings, settings, kept,
          Frame.settings_conclude]

mutual

/-- **A generation keeps the settings**, whatever becomes of it. -/
theorem settings_step (o : Objective α) : ∀ (s : Solver α) (calls : Nat),
    (s.step o calls).1.after.settings = s.settings
  | .evolution s, calls => congrArg Solver.evolution (s.settings_step o calls)
  | .compass s, calls => congrArg Solver.compass (s.settings_step o calls)
  | .ensemble _ _ ms, calls => settings_stepEnsemble calls (settings_moves o ms)

theorem settings_moves (o : Objective α) : ∀ (ms : List (Solver α)) (i : Nat) m move,
    ms[i]? = some m → (Solver.moves o ms)[i]? = some move →
      ∀ calls, (move calls).1.after.settings = m.settings
  | [], _, _, _, hm, _, _ => by simp at hm
  | m :: _, 0, _, _, hm, hmove, calls => by
      cases hm
      cases hmove
      exact settings_step o m calls
  | _ :: ms, i + 1, n, move, hm, hmove, calls => settings_moves o ms i n move hm hmove calls

end

/-- **The settings are the same wherever a user's calls lead.** -/
theorem settings_of_reached {usable : Objective α → Prop} {events : List (Event α)}
    (run : Reached usable s events t) : t.settings = s.settings := by
  have inv : Invariant usable fun _ t => t.settings = s.settings :=
    { step := fun calls _ h => (settings_step _ _ calls).trans h
      token := fun token h => (settings_setToken _ token).trans h
      marked := fun h => (settings_setState _ _).trans h
      log := fun _ h => h
      populated := fun ht h => (settings_setInitialPopulation ht).trans h
      guessed := fun ht h => (settings_setInitialGuess ht).trans h }
  exact inv.of_reached rfl run

end Solver
end BoxSearch

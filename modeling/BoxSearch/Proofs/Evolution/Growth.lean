import BoxSearch.Proofs.Criterion.Asking
import BoxSearch.Proofs.EvaluationMap.Faithful
import BoxSearch.Proofs.Evolution.Step

/-!
# The generation an evolution is about to make

When the objective agrees with a function wherever it answers, the next generation
of an evolution is settled before it is run: the energies are those of the function,
and the trials come from the generator.  `grownOn` is that generation up to the
question whether the run stops, as a function of the solver alone, with no map, no
criterion and no count of evaluations in it.

* `grownOn_of_step_ok` — a step that succeeds made that generation, however often
  the objective or the map failed before;
* `step_of_grownOn` — on the function itself, under a dependable map, the step
  succeeds and makes it;
* `begunOn_of_step_error` — a step that fails left everything, or it evaluated the
  first population on the way, which the next step would have done as well.

The map and the criterion are what two runs of one solver may differ in;
`withPlugs` exchanges the two, and a generation does not notice.
-/

namespace BoxSearch
namespace Evolution

variable {α : Type} [Scalar α]
variable {s t u : Evolution α} {o : Objective α} {f : Point α → Float}
variable {m : EvaluationMap α} {w : Option Watch} {strategy : Strategy α}
variable {calls : Nat} {b : Bool} {e : SolverError}

/-! ## The generation on a function -/

/-- The solver with its first population evaluated on a function. -/
def firstOn (s : Evolution α) (f : Point α → Float) : Option (Evolution α) :=
  if s.evaluated then some s
  else (Batch.energies s.constraints f s.firstRows).map (s.commitFirst s.firstRows)

/-- The solver when its trials on a function are due. -/
def begunOn (s : Evolution α) (f : Point α → Float) : Option (Evolution α) :=
  (s.firstOn f).map running

/-- The solver after its next generation on a function, before the question whether
the run stops. -/
def grownOn (s : Evolution α) (f : Point α → Float) : Option (Evolution α) :=
  s.strategy.bind fun strategy =>
    (s.begunOn f).bind fun t =>
      (t.allTrials strategy).toOption.bind fun p =>
        (Batch.energies t.constraints f p.1).map (t.bred p.1 p.2)

theorem firstOn_of_evaluated (h : s.evaluated = true) : s.firstOn f = some s := by
  rw [firstOn, if_pos h]

theorem firstOn_of_not_evaluated (h : s.evaluated = false) :
    s.firstOn f = (Batch.energies s.constraints f s.firstRows).map (s.commitFirst s.firstRows) := by
  rw [firstOn, if_neg (by simp [h])]

/-- The first population has its energies from before, or it is given those of the
function. -/
theorem of_firstOn_eq_some (h : s.firstOn f = some t) :
    (s.evaluated = true ∧ t = s) ∨
      (s.evaluated = false ∧ ∃ es, Batch.energies s.constraints f s.firstRows = some es ∧
        t = s.commitFirst s.firstRows es) := by
  cases hs : s.evaluated with
  | true =>
      rw [firstOn_of_evaluated hs] at h
      cases h
      exact Or.inl ⟨rfl, rfl⟩
  | false =>
      rw [firstOn_of_not_evaluated hs] at h
      obtain ⟨es, he, rfl⟩ := Option.map_eq_some_iff.1 h
      exact Or.inr ⟨rfl, es, he, rfl⟩

theorem grownOn_eq_some (hs : s.strategy = some strategy) (ht : s.begunOn f = some t)
    {points : List (Point α)} {g : Generator} {es : List Float}
    (hp : t.allTrials strategy = .ok (points, g))
    (he : Batch.energies t.constraints f points = some es) :
    s.grownOn f = some (t.bred points g es) := by
  simp only [grownOn, hs, ht, hp, he, Option.bind_some, Except.toOption, Option.map_some]

theorem of_grownOn_eq_some (h : s.grownOn f = some u) :
    ∃ strategy t points g es, s.strategy = some strategy ∧ s.begunOn f = some t ∧
      t.allTrials strategy = .ok (points, g) ∧
      Batch.energies t.constraints f points = some es ∧ u = t.bred points g es := by
  obtain ⟨strategy, hs, h⟩ := Option.bind_eq_some_iff.1 h
  obtain ⟨t, ht, h⟩ := Option.bind_eq_some_iff.1 h
  obtain ⟨⟨points, g⟩, hp, h⟩ := Option.bind_eq_some_iff.1 h
  obtain ⟨es, he, rfl⟩ := Option.map_eq_some_iff.1 h
  cases hx : t.allTrials strategy with
  | error e => rw [hx] at hp; cases hp
  | ok p => rw [hx] at hp; cases hp; exact ⟨strategy, t, points, g, es, hs, ht, hx, he, rfl⟩

/-! ## Solvers that differ in their plug-ins -/

/-- The solver with another map and another watch. -/
def withPlugs (s : Evolution α) (m : EvaluationMap α) (w : Option Watch) : Evolution α :=
  { s with map := some m, watch := w }

theorem withPlugs_self (h : s.map = some m) : s.withPlugs m s.watch = s := by
  cases s
  cases h
  rfl

theorem trials_withPlugs (targets : List Nat) (g : Generator) :
    (s.withPlugs m w).trials strategy targets g = s.trials strategy targets g :=
  trials_congr (s := s) (t := s.withPlugs m w) (fun _ => rfl) (fun _ _ => rfl) targets g

theorem firstOn_withPlugs : (s.withPlugs m w).firstOn f = (s.firstOn f).map (·.withPlugs m w) := by
  cases hs : s.evaluated with
  | true =>
      have hw : (s.withPlugs m w).evaluated = true := hs
      rw [firstOn_of_evaluated hw, firstOn_of_evaluated hs, Option.map_some]
  | false =>
      have hw : (s.withPlugs m w).evaluated = false := hs
      rw [firstOn_of_not_evaluated hw, firstOn_of_not_evaluated hs, Option.map_map]
      rfl

theorem begunOn_withPlugs : (s.withPlugs m w).begunOn f = (s.begunOn f).map (·.withPlugs m w) := by
  rw [begunOn, firstOn_withPlugs, begunOn, Option.map_map, Option.map_map]
  rfl

theorem allTrials_withPlugs : (s.withPlugs m w).allTrials strategy = s.allTrials strategy :=
  trials_withPlugs _ _

/-- A generation does not notice an exchange of the map or the watch. -/
theorem grownOn_withPlugs : (s.withPlugs m w).grownOn f = (s.grownOn f).map (·.withPlugs m w) := by
  have hs : (s.withPlugs m w).strategy = s.strategy := rfl
  simp only [grownOn, hs, begunOn_withPlugs, Option.map_bind, Option.bind_map, Function.comp_def,
    allTrials_withPlugs, Option.map_map]
  rfl

theorem concluded_withPlugs (reason : Option String) :
    (s.withPlugs m w).concluded reason = (s.concluded reason).withPlugs m w := by
  have hr : (s.withPlugs m w).limits.reason? (s.withPlugs m w).state =
    s.limits.reason? s.state := rfl
  unfold concluded
  rw [hr]
  split <;> rfl

/-! ## What a step makes of it -/

theorem firstOn_of_evaluateFirst_ok (faithful : m.Faithful) (agrees : o.AgreesWith f)
    (h : (s.evaluateFirst m o calls).1.result = .ok ()) :
    s.firstOn f = some (s.evaluateFirst m o calls).1.after := by
  rcases evaluateFirst_ok h with ⟨hs, ha⟩ | ⟨hs, es, hb, ha⟩
  · rw [firstOn_of_evaluated hs, ha]
  · have he := Batch.evaluate_of_faithful faithful agrees hb
    rw [firstOn_of_not_evaluated hs, he, ha, Option.map_some]

/-- **A step that fails on the way leaves no more than the evaluated first
population.** -/
theorem begunOn_of_step_error (hm : s.map = some m) (faithful : m.Faithful)
    (agrees : o.AgreesWith f) (h : (s.step o calls).1.result = .error e)
    (returned : e.fault? = none) :
    (s.step o calls).1.after = s ∨
      s.state.isTerminated = false ∧ s.begunOn f = some (s.step o calls).1.after := by
  rcases step_error h returned with ⟨_, ha⟩ | ⟨strategy, map, hc, going, hf, ha⟩
  · exact Or.inl ha
  · obtain ⟨_, _, _, hm', _⟩ := checkReady_eq_ok_iff.1 hc
    rw [hm] at hm'
    cases hm'
    refine Or.inr ⟨going, ?_⟩
    rw [begunOn, firstOn_of_evaluateFirst_ok faithful agrees hf, ha, Option.map_some]

/-- **A step that succeeds made the generation that was settled before.** -/
theorem grownOn_of_step_ok (hm : s.map = some m) (faithful : m.Faithful)
    (agrees : o.AgreesWith f) (going : s.state.isTerminated = false)
    (h : (s.step o calls).1.result = .ok b) :
    ∃ u, s.grownOn f = some u ∧ u.checkStop.result = .ok b ∧
      (s.step o calls).1.after = u.checkStop.after := by
  obtain ⟨strategy, map, hc, ⟨ended, _⟩ | ⟨_, hf, t, points, g, es, n, ht, hp, hb, hs, ha⟩⟩ :=
    step_ok h
  · rw [going] at ended
    cases ended
  · obtain ⟨_, hstrategy, _, hm', _⟩ := checkReady_eq_ok_iff.1 hc
    rw [hm] at hm'
    cases hm'
    have hbegun : s.begunOn f = some t := by
      rw [begunOn, firstOn_of_evaluateFirst_ok faithful agrees hf, ht, Option.map_some]
    have he := Batch.evaluate_of_faithful faithful agrees hb
    exact ⟨_, grownOn_eq_some hstrategy hbegun hp he, hs, ha⟩

theorem evaluateFirst_of_firstOn (calls : Nat) (dependable : m.Dependable)
    (h : s.firstOn f = some t) :
    (s.evaluateFirst m (.ofFunction f) calls).1.result = .ok () ∧
      (s.evaluateFirst m (.ofFunction f) calls).1.after = t := by
  rcases of_firstOn_eq_some h with ⟨hs, rfl⟩ | ⟨hs, es, he, rfl⟩
  · rw [evaluateFirst_of_evaluated hs]
    exact ⟨rfl, rfl⟩
  · have hb : (s.evaluateBatch m (.ofFunction f) calls s.firstRows).1 = .ok es :=
      Batch.evaluate_of_dependable dependable he
    rcases hx : s.evaluateBatch m (.ofFunction f) calls s.firstRows with ⟨r, n⟩
    rw [hx] at hb
    cases hb
    exact evaluateFirst_of_batch_ok hs hx

/-- **On the function itself the generation is made**, if the map is dependable. -/
theorem step_of_grownOn (calls : Nat) (hc : s.checkReady (.ofFunction f) = .ok (strategy, m))
    (dependable : m.Dependable) (going : s.state.isTerminated = false)
    (h : s.grownOn f = some u) :
    (s.step (.ofFunction f) calls).1.result = u.checkStop.result ∧
      (s.step (.ofFunction f) calls).1.after = u.checkStop.after := by
  obtain ⟨strategy', t, points, g, es, hs, ht, hp, he, rfl⟩ := of_grownOn_eq_some h
  obtain ⟨_, hs', _⟩ := checkReady_eq_ok_iff.1 hc
  rw [hs] at hs'
  cases hs'
  obtain ⟨t₀, ht₀, rfl⟩ := Option.map_eq_some_iff.1 ht
  obtain ⟨hf, ha⟩ := evaluateFirst_of_firstOn calls dependable ht₀
  obtain ⟨n, hr, ha'⟩ := step_of_first_ok hc going hf
  rw [ha] at hr ha'
  have hb : (t₀.running.evaluateBatch m (.ofFunction f) n points).1 = .ok es :=
    Batch.evaluate_of_dependable dependable he
  rcases hx : t₀.running.evaluateBatch m (.ofFunction f) n points with ⟨r, k⟩
  rw [hx] at hb
  cases hb
  obtain ⟨hr', ha''⟩ := evolve_of_batch_ok hp hx
  exact ⟨hr.trans hr', ha'.trans ha''⟩

/-! ## One solver with two pairs of plug-ins -/

/-- The solver has what a step needs of it, its map and its criterion apart. -/
def Equipped (s : Evolution α) : Prop :=
  s.ready = true ∧ ∃ strategy n, s.strategy = some strategy ∧
    strategy.minPopulation = .ok n ∧ n ≤ s.state.population.size

theorem checkReady_of_equipped (h : s.Equipped) (hw : w.isSome = true) :
    ∃ strategy, (s.withPlugs m w).checkReady (.ofFunction f) = .ok (strategy, m) := by
  obtain ⟨hr, strategy, n, hs, hn, hle⟩ := h
  exact ⟨strategy, checkReady_eq_ok_iff.2 ⟨hr, hs, hw, rfl, rfl, n, hn, hle⟩⟩

/-- The plug-ins that a step which was not refused has found. -/
theorem equipped_of_step_ok (h : ((s.withPlugs m w).step o calls).1.result = .ok b) :
    s.Equipped ∧ w.isSome = true := by
  obtain ⟨strategy, map, hc, _⟩ := step_ok h
  obtain ⟨hr, hs, hw, _, _, n, hn, hle⟩ := checkReady_eq_ok_iff.1 hc
  exact ⟨⟨hr, strategy, n, hs, hn, hle⟩, hw⟩

theorem checkStop_ok (h : s.checkStop.result = .ok b) :
    ∃ reason watch, askWatch s.state s.watch = .ok (reason, watch) ∧
      b = (reason.or (s.limits.reason? s.state)).isSome ∧
      s.checkStop.after = ({ s with watch } : Evolution α).concluded reason := by
  cases ha : askWatch s.state s.watch with
  | error e => simp [checkStop, ha, Reply.refuse] at h
  | ok p =>
      obtain ⟨reason, watch⟩ := p
      obtain ⟨hr, hs⟩ := checkStop_of_askWatch ha
      rw [hr] at h
      cases h
      exact ⟨reason, watch, rfl, rfl, hs⟩

/-- A step that succeeds, with its plug-ins set apart. -/
theorem step_withPlugs_ok (faithful : m.Faithful) (agrees : o.AgreesWith f)
    (going : s.state.isTerminated = false)
    (h : ((s.withPlugs m w).step o calls).1.result = .ok b) :
    ∃ u reason w', s.grownOn f = some u ∧ askWatch u.state w = .ok (reason, w') ∧
      b = (reason.or (u.limits.reason? u.state)).isSome ∧
      ((s.withPlugs m w).step o calls).1.after = (u.concluded reason).withPlugs m w' := by
  obtain ⟨v, hv, hs, ha⟩ :=
    grownOn_of_step_ok (s := s.withPlugs m w) rfl faithful agrees going h
  rw [grownOn_withPlugs] at hv
  obtain ⟨u, hu, rfl⟩ := Option.map_eq_some_iff.1 hv
  obtain ⟨reason, w', hask, hb, hafter⟩ := checkStop_ok hs
  refine ⟨u, reason, w', hu, hask, hb, ha.trans (hafter.trans ?_)⟩
  exact concluded_withPlugs (s := u) (m := m) (w := w') reason

/-- A step on the function itself, with its plug-ins set apart. -/
theorem step_withPlugs_of_grownOn (calls : Nat) (dependable : m.Dependable) (equipped : s.Equipped)
    (hw : w.isSome = true) (going : s.state.isTerminated = false) (hu : s.grownOn f = some u)
    {reason : Option String} {w' : Option Watch} (hask : askWatch u.state w = .ok (reason, w')) :
    ((s.withPlugs m w).step (.ofFunction f) calls).1.result =
        .ok (reason.or (u.limits.reason? u.state)).isSome ∧
      ((s.withPlugs m w).step (.ofFunction f) calls).1.after =
        (u.concluded reason).withPlugs m w' := by
  obtain ⟨strategy, hc⟩ := checkReady_of_equipped (m := m) (f := f) equipped hw
  have hv : (s.withPlugs m w).grownOn f = some (u.withPlugs m w) := by
    rw [grownOn_withPlugs, hu, Option.map_some]
  obtain ⟨hr, ha⟩ := step_of_grownOn calls hc dependable going hv
  obtain ⟨hr', ha'⟩ := checkStop_of_askWatch (s := u.withPlugs m w) hask
  refine ⟨hr.trans hr', ha.trans (ha'.trans ?_)⟩
  exact concluded_withPlugs (s := u) (m := m) (w := w') reason

/-! ## Beginning twice -/

/-- What a solver that has begun is, compared with the one that it was. -/
theorem of_begunOn_eq_some (h : s.begunOn f = some t) :
    t.evaluated = true ∧ (t = s.running ∨ ∃ es, t = (s.commitFirst s.firstRows es).running) := by
  obtain ⟨t₀, ht₀, rfl⟩ := Option.map_eq_some_iff.1 h
  rcases of_firstOn_eq_some ht₀ with ⟨hs, rfl⟩ | ⟨_, es, _, rfl⟩
  · exact ⟨hs, Or.inl rfl⟩
  · exact ⟨rfl, Or.inr ⟨es, rfl⟩⟩

theorem going_of_begunOn (h : s.begunOn f = some t) : t.state.isTerminated = false := by
  obtain ⟨_, rfl | ⟨es, rfl⟩⟩ := of_begunOn_eq_some h <;> rfl

theorem running_of_begunOn (h : s.begunOn f = some t) : t.running = t := by
  obtain ⟨_, rfl | ⟨es, rfl⟩⟩ := of_begunOn_eq_some h <;> rfl

/-- What was begun is not begun anew. -/
theorem begunOn_of_begunOn (h : s.begunOn f = some t) : t.begunOn f = some t := by
  rw [begunOn, firstOn_of_evaluated (of_begunOn_eq_some h).1, Option.map_some,
    running_of_begunOn h]

theorem strategy_of_begunOn (h : s.begunOn f = some t) : t.strategy = s.strategy := by
  obtain ⟨_, rfl | ⟨es, rfl⟩⟩ := of_begunOn_eq_some h <;> rfl

/-- The generation of a solver that has begun is the one it was about to make. -/
theorem grownOn_of_begunOn (h : s.begunOn f = some t) : t.grownOn f = s.grownOn f := by
  rw [grownOn, grownOn, strategy_of_begunOn h, begunOn_of_begunOn h, h]

theorem equipped_of_begunOn (h : s.begunOn f = some t) (equipped : t.Equipped) : s.Equipped := by
  obtain ⟨_, rfl | ⟨es, rfl⟩⟩ := of_begunOn_eq_some h
  · exact equipped
  · obtain ⟨hr, strategy, n, hs, hn, hle⟩ := equipped
    refine ⟨hr, strategy, n, hs, hn, ?_⟩
    simpa [running, commitFirst, firstRows, Population.size] using hle

/-! ## Taking a generation back -/

/-- The solver with what a checkpoint of another one holds. -/
def rolledBack (t s : Evolution α) : Evolution α :=
  { t with state := s.state, generator := s.generator, evaluated := s.evaluated }

theorem rolledBack_of_begunOn (h : s.begunOn f = some t) : t.rolledBack s = s := by
  obtain ⟨_, rfl | ⟨es, rfl⟩⟩ := of_begunOn_eq_some h <;> rfl

theorem rolledBack_concluded (reason : Option String) :
    (u.concluded reason).rolledBack s = u.rolledBack s := by
  unfold concluded
  split <;> rfl

theorem rolledBack_of_grownOn (h : s.grownOn f = some u) : u.rolledBack s = s := by
  obtain ⟨strategy, t, points, g, es, _, ht, _, _, rfl⟩ := of_grownOn_eq_some h
  show t.rolledBack s = s
  exact rolledBack_of_begunOn ht

end Evolution
end BoxSearch

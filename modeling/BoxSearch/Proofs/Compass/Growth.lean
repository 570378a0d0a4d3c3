import BoxSearch.Proofs.Compass.Step
import BoxSearch.Proofs.Criterion.Asking
import BoxSearch.Proofs.EvaluationMap.Faithful

/-!
# The generation a compass search is about to make

As for an evolution, the next generation of a compass search is settled before it is
run when the objective agrees with a function wherever it answers.  `grownOn` is that
generation up to the question whether the run stops.

There is one difference.  The search takes a failed generation back as a whole, so a
failure never leaves it half begun.

* `step_withPlugs_ok` — a step that succeeds made that generation;
* `step_withPlugs_of_grownOn` — on the function itself, under a dependable map, the
  step succeeds and makes it.
-/

namespace BoxSearch
namespace Compass

variable {α : Type} [Scalar α]
variable {s t u : Compass α} {o : Objective α} {f : Point α → Float}
variable {m : EvaluationMap α} {w : Option Watch}
variable {calls : Nat} {b : Bool} {e : SolverError}

/-! ## The generation on a function -/

/-- The search with its start point evaluated on a function. -/
def firstOn (s : Compass α) (f : Point α → Float) : Option (Compass α) :=
  if s.evaluated then some s
  else
    match s.state.population.rows with
    | [] => none
    | row :: _ => (Batch.energies s.constraints f [s.finish row]).map fun es =>
        s.commitStart (s.finish row) (es.headD Double.nan)

/-- The search when its probes on a function are due. -/
def begunOn (s : Compass α) (f : Point α → Float) : Option (Compass α) :=
  (s.firstOn f).map running

/-- The search after its next generation on a function, before the question whether
the run stops. -/
def grownOn (s : Compass α) (f : Point α → Float) : Option (Compass α) :=
  (s.begunOn f).bind fun t =>
    t.probes.toOption.bind fun points =>
      (Batch.energies t.constraints f points).map (t.move points)

theorem firstOn_of_evaluated (h : s.evaluated = true) : s.firstOn f = some s := by
  rw [firstOn, if_pos h]

theorem firstOn_of_not_evaluated {row : Point α} {rows : List (Point α)} (hs : s.evaluated = false)
    (hr : s.state.population.rows = row :: rows) :
    s.firstOn f = (Batch.energies s.constraints f [s.finish row]).map fun es =>
      s.commitStart (s.finish row) (es.headD Double.nan) := by
  simp only [firstOn, hs, Bool.false_eq_true, if_false, hr]

theorem firstOn_of_empty (hs : s.evaluated = false) (hr : s.state.population.rows = []) :
    s.firstOn f = none := by
  simp only [firstOn, hs, Bool.false_eq_true, if_false, hr]

/-- The start point has its energy from before, or it is given that of the function. -/
theorem of_firstOn_eq_some (h : s.firstOn f = some t) :
    (s.evaluated = true ∧ t = s) ∨
      (s.evaluated = false ∧ ∃ row rows es, s.state.population.rows = row :: rows ∧
        Batch.energies s.constraints f [s.finish row] = some es ∧
        t = s.commitStart (s.finish row) (es.headD Double.nan)) := by
  cases hs : s.evaluated with
  | true =>
      rw [firstOn_of_evaluated hs] at h
      cases h
      exact Or.inl ⟨rfl, rfl⟩
  | false =>
      cases hr : s.state.population.rows with
      | nil => rw [firstOn_of_empty hs hr] at h; cases h
      | cons row rows =>
          rw [firstOn_of_not_evaluated hs hr] at h
          obtain ⟨es, he, rfl⟩ := Option.map_eq_some_iff.1 h
          exact Or.inr ⟨rfl, row, rows, es, rfl, he, rfl⟩

theorem grownOn_eq_some {points : List (Point α)} {es : List Float} (ht : s.begunOn f = some t)
    (hp : t.probes = .ok points) (he : Batch.energies t.constraints f points = some es) :
    s.grownOn f = some (t.move points es) := by
  simp only [grownOn, ht, hp, he, Option.bind_some, Except.toOption, Option.map_some]

theorem of_grownOn_eq_some (h : s.grownOn f = some u) :
    ∃ t points es, s.begunOn f = some t ∧ t.probes = .ok points ∧
      Batch.energies t.constraints f points = some es ∧ u = t.move points es := by
  obtain ⟨t, ht, h⟩ := Option.bind_eq_some_iff.1 h
  obtain ⟨points, hp, h⟩ := Option.bind_eq_some_iff.1 h
  obtain ⟨es, he, rfl⟩ := Option.map_eq_some_iff.1 h
  cases hx : t.probes with
  | error c => rw [hx] at hp; cases hp
  | ok points => rw [hx] at hp; cases hp; exact ⟨t, points, es, ht, hx, he, rfl⟩

/-! ## Searches that differ in their plug-ins -/

/-- The search with another map and another watch. -/
def withPlugs (s : Compass α) (m : EvaluationMap α) (w : Option Watch) : Compass α :=
  { s with map := m, watch := w }

theorem firstOn_withPlugs : (s.withPlugs m w).firstOn f = (s.firstOn f).map (·.withPlugs m w) := by
  cases hs : s.evaluated with
  | true =>
      have hw : (s.withPlugs m w).evaluated = true := hs
      rw [firstOn_of_evaluated hw, firstOn_of_evaluated hs]
      rfl
  | false =>
      have hw : (s.withPlugs m w).evaluated = false := hs
      cases hr : s.state.population.rows with
      | nil =>
          have hr' : (s.withPlugs m w).state.population.rows = [] := hr
          rw [firstOn_of_empty hw hr', firstOn_of_empty hs hr, Option.map_none]
      | cons row rows =>
          have hr' : (s.withPlugs m w).state.population.rows = row :: rows := hr
          rw [firstOn_of_not_evaluated hw hr', firstOn_of_not_evaluated hs hr, Option.map_map]
          rfl

theorem begunOn_withPlugs : (s.withPlugs m w).begunOn f = (s.begunOn f).map (·.withPlugs m w) := by
  rw [begunOn, firstOn_withPlugs, begunOn, Option.map_map, Option.map_map]
  rfl

theorem move_withPlugs (points : List (Point α)) (es : List Float) :
    (s.withPlugs m w).move points es = (s.move points es).withPlugs m w := by
  unfold move withPlugs
  dsimp only
  split <;> rfl

/-- A generation does not notice an exchange of the map or the watch. -/
theorem grownOn_withPlugs : (s.withPlugs m w).grownOn f = (s.grownOn f).map (·.withPlugs m w) := by
  rw [grownOn, begunOn_withPlugs, grownOn, Option.map_bind, Option.bind_map]
  congr 1
  funext t
  have hp : (t.withPlugs m w).probes = t.probes := rfl
  have hc : (t.withPlugs m w).constraints = t.constraints := rfl
  simp only [hp, hc, Option.map_bind, Function.comp_def, Option.map_map]
  congr 1
  funext points
  congr 1
  funext es
  exact move_withPlugs points es

theorem concluded_withPlugs (reason : Option String) :
    (s.withPlugs m w).concluded reason = (s.concluded reason).withPlugs m w := by
  have hr : (s.withPlugs m w).ownReason? = s.ownReason? := rfl
  unfold concluded
  rw [hr]
  split <;> rfl

/-! ## What a step makes of it -/

theorem firstOn_of_evaluateStart_ok (faithful : s.map.Faithful) (agrees : o.AgreesWith f)
    (h : (s.evaluateStart o calls).1.result = .ok ()) :
    s.firstOn f = some (s.evaluateStart o calls).1.after := by
  rcases evaluateStart_ok h with ⟨hs, ha⟩ | ⟨hs, row, rows, es, hr, hb, ha⟩
  · rw [firstOn_of_evaluated hs, ha]
  · have he := Batch.evaluate_of_faithful faithful agrees hb
    rw [firstOn_of_not_evaluated hs hr, he, ha, Option.map_some]

theorem map_of_evaluateStart : (s.evaluateStart o calls).1.after.map = s.map := by
  have h : ((s.evaluateStart o calls).1.after.rolledBack s).map = s.map := by
    rw [rolledBack_evaluateStart]
  exact h

/-- **A step that succeeds made the generation that was settled before.** -/
theorem grownOn_of_step_ok (faithful : s.map.Faithful) (agrees : o.AgreesWith f)
    (going : s.state.isTerminated = false) (h : (s.step o calls).1.result = .ok b) :
    ∃ u, s.grownOn f = some u ∧ u.checkStop.result = .ok b ∧
      (s.step o calls).1.after = u.checkStop.after := by
  obtain ⟨_, ⟨ended, _⟩ | ⟨_, hf, t, points, es, n, ht, hp, hb, hs, ha⟩⟩ := step_ok h
  · rw [going] at ended
    cases ended
  · have hbegun : s.begunOn f = some t := by
      rw [begunOn, firstOn_of_evaluateStart_ok faithful agrees hf, ht, Option.map_some]
    have hmap : t.map = s.map := by
      rw [ht]
      exact map_of_evaluateStart
    have he := Batch.evaluate_of_faithful (hmap ▸ faithful) agrees hb
    exact ⟨_, grownOn_eq_some hbegun hp he, hs, ha⟩

theorem evaluateStart_of_firstOn (calls : Nat) (dependable : s.map.Dependable)
    (h : s.firstOn f = some t) :
    (s.evaluateStart (.ofFunction f) calls).1.result = .ok () ∧
      (s.evaluateStart (.ofFunction f) calls).1.after = t := by
  rcases of_firstOn_eq_some h with ⟨hs, rfl⟩ | ⟨hs, row, rows, es, hr, he, rfl⟩
  · rw [evaluateStart_of_evaluated hs]
    exact ⟨rfl, rfl⟩
  · have hb : (s.evaluateBatch (.ofFunction f) calls [s.finish row]).1 = .ok es :=
      Batch.evaluate_of_dependable dependable he
    rcases hx : s.evaluateBatch (.ofFunction f) calls [s.finish row] with ⟨r, n⟩
    rw [hx] at hb
    cases hb
    exact evaluateStart_of_batch_ok hs hr hx

theorem ready_of_checkReady (h : s.checkReady o = .ok ()) : s.ready = true := by
  cases hr : s.ready with
  | true => rfl
  | false => simp [checkReady, hr, bind, Except.bind] at h

theorem checkReady_ofFunction_iff : s.checkReady (.ofFunction f) = .ok () ↔ s.ready = true := by
  constructor
  · exact ready_of_checkReady
  · intro hr
    simp [checkReady, hr, Objective.checkDimension, Objective.ofFunction]

/-- **On the function itself the generation is made**, if the map is dependable. -/
theorem step_of_grownOn (calls : Nat) (ready : s.ready = true) (dependable : s.map.Dependable)
    (going : s.state.isTerminated = false) (h : s.grownOn f = some u)
    (hu : u.checkStop.result = .ok b) :
    (s.step (.ofFunction f) calls).1.result = .ok b ∧
      (s.step (.ofFunction f) calls).1.after = u.checkStop.after := by
  obtain ⟨t, points, es, ht, hp, he, rfl⟩ := of_grownOn_eq_some h
  obtain ⟨t₀, ht₀, rfl⟩ := Option.map_eq_some_iff.1 ht
  obtain ⟨hf, ha⟩ := evaluateStart_of_firstOn calls dependable ht₀
  have hc : s.checkReady (.ofFunction f) = .ok () := checkReady_ofFunction_iff.2 ready
  obtain ⟨n, hr, ha'⟩ := advance_of_start_ok hc going hf
  have hmap : t₀.map = s.map := by
    rw [← ha]
    exact map_of_evaluateStart
  rw [ha] at hr ha'
  have hb : (t₀.running.evaluateBatch (.ofFunction f) n points).1 = .ok es :=
    Batch.evaluate_of_dependable (hmap ▸ dependable : t₀.running.map.Dependable) he
  rcases hx : t₀.running.evaluateBatch (.ofFunction f) n points with ⟨r, k⟩
  rw [hx] at hb
  cases hb
  obtain ⟨hr', ha''⟩ := explore_of_batch_ok hp hx
  have hadvance : (s.advance (.ofFunction f) calls).1.result = .ok b := hr.trans (hr'.trans hu)
  rw [step_of_advance_ok hadvance]
  exact ⟨hadvance, ha'.trans ha''⟩

/-! ## One search with two pairs of plug-ins -/

/-- A step that succeeds, with its plug-ins set apart. -/
theorem step_withPlugs_ok (faithful : m.Faithful) (agrees : o.AgreesWith f)
    (going : s.state.isTerminated = false)
    (h : ((s.withPlugs m w).step o calls).1.result = .ok b) :
    ∃ u reason w', s.grownOn f = some u ∧ askWatch u.state w = .ok (reason, w') ∧
      b = (reason.or u.ownReason?).isSome ∧
      ((s.withPlugs m w).step o calls).1.after = (u.concluded reason).withPlugs m w' := by
  obtain ⟨v, hv, hs, ha⟩ :=
    grownOn_of_step_ok (s := s.withPlugs m w) faithful agrees going h
  rw [grownOn_withPlugs] at hv
  obtain ⟨u, hu, rfl⟩ := Option.map_eq_some_iff.1 hv
  obtain ⟨reason, w', hask, hb, hafter⟩ := checkStop_ok hs
  refine ⟨u, reason, w', hu, hask, hb, ha.trans (hafter.trans ?_)⟩
  exact concluded_withPlugs (s := u) (m := m) (w := w') reason

/-- A step on the function itself, with its plug-ins set apart. -/
theorem step_withPlugs_of_grownOn (calls : Nat) (dependable : m.Dependable) (ready : s.ready = true)
    (going : s.state.isTerminated = false) (hu : s.grownOn f = some u)
    {reason : Option String} {w' : Option Watch} (hask : askWatch u.state w = .ok (reason, w')) :
    ((s.withPlugs m w).step (.ofFunction f) calls).1.result =
        .ok (reason.or u.ownReason?).isSome ∧
      ((s.withPlugs m w).step (.ofFunction f) calls).1.after =
        (u.concluded reason).withPlugs m w' := by
  have hv : (s.withPlugs m w).grownOn f = some (u.withPlugs m w) := by
    rw [grownOn_withPlugs, hu, Option.map_some]
  obtain ⟨hr, ha⟩ := checkStop_of_askWatch (s := u.withPlugs m w) hask
  obtain ⟨hr', ha'⟩ :=
    step_of_grownOn (s := s.withPlugs m w) calls ready dependable going hv hr
  refine ⟨hr', ha'.trans (ha.trans ?_)⟩
  exact concluded_withPlugs (s := u) (m := m) (w := w') reason

/-! ## Beginning twice -/

/-- What a search that has begun is, compared with the one that it was. -/
theorem of_begunOn_eq_some (h : s.begunOn f = some t) :
    t.evaluated = true ∧ (t = s.running ∨ ∃ x v, t = (s.commitStart x v).running) := by
  obtain ⟨t₀, ht₀, rfl⟩ := Option.map_eq_some_iff.1 h
  rcases of_firstOn_eq_some ht₀ with ⟨hs, rfl⟩ | ⟨_, row, rows, es, _, _, rfl⟩
  · exact ⟨hs, Or.inl rfl⟩
  · exact ⟨rfl, Or.inr ⟨_, _, rfl⟩⟩

theorem going_of_begunOn (h : s.begunOn f = some t) : t.state.isTerminated = false := by
  obtain ⟨_, rfl | ⟨x, v, rfl⟩⟩ := of_begunOn_eq_some h <;> rfl

theorem running_of_begunOn (h : s.begunOn f = some t) : t.running = t := by
  obtain ⟨_, rfl | ⟨x, v, rfl⟩⟩ := of_begunOn_eq_some h <;> rfl

/-- What was begun is not begun anew. -/
theorem begunOn_of_begunOn (h : s.begunOn f = some t) : t.begunOn f = some t := by
  rw [begunOn, firstOn_of_evaluated (of_begunOn_eq_some h).1, Option.map_some,
    running_of_begunOn h]

/-- The generation of a search that has begun is the one it was about to make. -/
theorem grownOn_of_begunOn (h : s.begunOn f = some t) : t.grownOn f = s.grownOn f := by
  rw [grownOn, grownOn, begunOn_of_begunOn h, h]

/-! ## Taking a generation back -/

theorem rolledBack_of_begunOn (h : s.begunOn f = some t) : t.rolledBack s = s := by
  obtain ⟨_, rfl | ⟨x, v, rfl⟩⟩ := of_begunOn_eq_some h <;> rfl

theorem ready_of_begunOn (h : s.begunOn f = some t) : t.ready = s.ready := by
  obtain ⟨_, rfl | ⟨x, v, rfl⟩⟩ := of_begunOn_eq_some h <;> rfl

theorem rolledBack_concluded (reason : Option String) :
    (u.concluded reason).rolledBack s = u.rolledBack s := by
  unfold concluded
  split <;> rfl

theorem rolledBack_of_grownOn (h : s.grownOn f = some u) : u.rolledBack s = s := by
  obtain ⟨t, points, es, ht, _, _, rfl⟩ := of_grownOn_eq_some h
  rw [rolledBack_move]
  exact rolledBack_of_begunOn ht

end Compass
end BoxSearch

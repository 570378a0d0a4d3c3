import BoxSearch.Proofs.Box.Holding
import BoxSearch.Proofs.Evolution.Invariant
import BoxSearch.Proofs.Evolution.Selection
import BoxSearch.Proofs.Strategy.Fitting

/-!
# Differential evolution stays in its box

Points get into a run of differential evolution by draws, by a user's start values, by
repairs and by mutation, and none of these keeps to the box.  What keeps to it is that every
point is clipped after it was repaired, before it is evaluated.  So from the evaluation of
the first population on, the members and the best point are held by the box, and before it
they are at least points of the right dimension.

`Walled` is this invariant; `Walled.step` carries it through a generation, whatever becomes
of it.
-/

namespace BoxSearch

/-- The repair of some constraints keeps the dimension of a point. -/
def Constraints.KeepLength {α : Type} (c : Constraints α) : Prop :=
  ∀ x, (c.applyRepair x).length = x.length

/-- A box holds the members of a state and its best point. -/
structure State.Inside (b : Box Float) (s : State Float) : Prop where
  rows : ∀ x ∈ s.population.rows, b.Holds x
  best : b.Holds s.bestSolution

namespace Evolution

variable {b : Box Float} {s t : Evolution Float} {o : Objective Float}
variable {m : EvaluationMap Float} {calls : Nat}

/-- A run that is kept in a box. -/
structure Walled (b : Box Float) (s : Evolution Float) : Prop where
  /-- it searches in the box -/
  box : s.box = some b
  /-- the box has the dimension of the problem -/
  dim : b.dim = s.dim
  /-- trials have that dimension -/
  strategy : ∀ x, s.strategy = some x → x.Fits s.dim
  /-- and repairs keep it -/
  repair : s.constraints.KeepLength
  /-- the members have it -/
  table : s.state.population.Table s.dim
  /-- there are members to be evaluated -/
  drawn : s.evaluated = false → s.state.population.rows ≠ []
  /-- a completed generation was evaluated -/
  begun : 0 < s.state.generation → s.evaluated = true
  /-- a run that has ended has completed a generation -/
  ended : s.state.isTerminated = true → 0 < s.state.generation
  /-- what was evaluated is held by the box -/
  inside : s.evaluated = true → s.state.Inside b

namespace Walled

/-! ## Points -/

theorem holds_clip (h : s.Walled b) {x : Point Float} (hx : x.length = s.dim) :
    b.Holds (s.clip x) := by
  unfold clip
  rw [h.box]
  exact Box.holds_clip (hx.trans h.dim.symm)

/-- A repaired and clipped point is held by the box. -/
theorem holds_finish (h : s.Walled b) {x : Point Float} (hx : x.length = s.dim) :
    b.Holds (s.finish x) := h.holds_clip ((h.repair x).trans hx)

theorem length_of_holds (h : s.Walled b) {x : Point Float} (hx : b.Holds x) :
    x.length = s.dim := hx.length.trans h.dim

/-- What holds of points in the box makes a table of the right dimension. -/
theorem table_of_inside (h : s.Walled b) {state : State Float}
    (width : state.population.width = s.dim) (inside : state.Inside b) :
    state.population.Table s.dim :=
  ⟨width, fun x hx => h.length_of_holds (inside.rows x hx)⟩

/-! ## What a step may write -/

/-- Criterion, token and status may change, as long as the status is not made to say that
the run has ended before it has begun. -/
theorem marks (h : s.Walled b) (watch : Option Watch) (token : CancelToken) (status : Status)
    (ended : status.isTerminated = true → 0 < s.state.generation) :
    Walled b { s with watch, token, state := { s.state with status } } where
  box := h.box
  dim := h.dim
  strategy := h.strategy
  repair := h.repair
  table := h.table
  drawn := h.drawn
  begun := h.begun
  ended := ended
  inside hs := ⟨(h.inside hs).rows, (h.inside hs).best⟩

theorem running (h : s.Walled b) : s.running.Walled b := h.marks s.watch s.token .running nofun

theorem commitFirst (h : s.Walled b) {es : List Float} (nonempty : s.state.population.rows ≠ [])
    (hl : es.length = s.firstRows.length) :
    (s.commitFirst s.firstRows es).Walled b := by
  have rows : ∀ x ∈ s.firstRows, b.Holds x := by
    intro x hx
    obtain ⟨y, hy, rfl⟩ := List.mem_map.1 hx
    exact h.holds_finish (h.table.lengths y hy)
  have place : (Energy.argmin es).1 < s.firstRows.length := by
    refine hl ▸ Energy.argmin_lt_length fun hes => nonempty ?_
    rw [hes, firstRows, List.length_map] at hl
    exact List.eq_nil_of_length_eq_zero hl.symm
  have inside : (s.commitFirst s.firstRows es).state.Inside b :=
    ⟨rows, rows _ (Population.row_mem place)⟩
  exact ⟨h.box, h.dim, h.strategy, h.repair, h.table_of_inside h.table.width inside, nofun,
    fun _ => rfl, h.ended, fun _ => inside⟩

theorem evaluateFirst (h : s.Walled b) (m : EvaluationMap Float) (o : Objective Float)
    (calls : Nat) : (s.evaluateFirst m o calls).1.after.Walled b := by
  cases hr : (s.evaluateFirst m o calls).1.result with
  | error e =>
      rw [evaluateFirst_error hr]
      exact h
  | ok u =>
      rcases evaluateFirst_ok hr with ⟨_, ha⟩ | ⟨fresh, es, hb, ha⟩
      · rw [ha]
        exact h
      · rw [ha]
        exact h.commitFirst (h.drawn fresh) (Batch.length_of_evaluate hb)

/-- Every trial is held by the box. -/
theorem holds_trials (h : s.Walled b) {strategy : Strategy Float} (fits : strategy.Fits s.dim)
    {targets : List Nat} {g g' : Generator} {points : List (Point Float)}
    (ht : s.trials strategy targets g = .ok (points, g')) : ∀ x ∈ points, b.Holds x := by
  induction targets generalizing g points with
  | nil =>
      cases ht
      exact nofun
  | cons i targets ih =>
      rw [trials] at ht
      cases hg : strategy.generate s.state.population s.state.energies i g with
      | error e => rw [hg] at ht; cases ht
      | ok p =>
          obtain ⟨x, g₁⟩ := p
          cases hrest : s.trials strategy targets g₁ with
          | error e => simp only [hg, hrest, bind, Except.bind] at ht; cases ht
          | ok q =>
              obtain ⟨rest, g₂⟩ := q
              simp only [hg, hrest, bind, Except.bind, Except.ok.injEq, Prod.mk.injEq] at ht
              obtain ⟨rfl, rfl⟩ := ht
              exact List.forall_mem_cons.2
                ⟨h.holds_finish (fits _ _ _ _ _ _ h.table hg), ih hrest⟩

/-- **A selection between points in the box stays in the box.** -/
theorem inside_select {state : State Float} {trials : List (Point Float × Float)}
    (inside : state.Inside b) (held : ∀ p ∈ trials, b.Holds p.1) :
    (select state trials).Inside b := by
  have rows : ∀ x ∈ (select state trials).population.rows, b.Holds x := by
    intro x hx
    rw [rows_select] at hx
    obtain ⟨p, hp, rfl⟩ := List.mem_map.1 hx
    obtain ⟨i, hi⟩ := List.mem_iff_getElem?.1 hp
    obtain ⟨target, trial, htarget, htrial, rfl⟩ := List.getElem?_zipWith_eq_some.1 hi
    rcases survivor_cases target trial with hs | hs
    · rw [hs]
      exact inside.rows _ (List.of_mem_zip (List.mem_of_getElem? htarget)).1
    · rw [hs]
      exact held _ (List.mem_of_getElem? htrial)
  refine ⟨rows, ?_⟩
  by_cases improves : (Energy.argmin (select state trials).energies).2 < state.bestEnergy
  · have hs : (select state trials).bestSolution = (select state trials).population.row
        (Energy.argmin (select state trials).energies).1 := if_pos improves
    rw [hs]
    refine rows _ (Population.row_mem ?_)
    rw [rows_select, List.length_map, ← List.length_map (f := (·.2)), ← energies_select]
    exact Energy.argmin_lt_length_of_lt improves
  · have hs : (select state trials).bestSolution = state.bestSolution := if_neg improves
    rw [hs]
    exact inside.best

theorem bred (h : s.Walled b) (evaluated : s.evaluated = true) {points : List (Point Float)}
    (held : ∀ x ∈ points, b.Holds x) (g : Generator) (es : List Float) :
    (s.bred points g es).Walled b := by
  have inside : (s.bred points g es).state.Inside b :=
    inside_select (h.inside evaluated) fun p hp => held _ (List.of_mem_zip hp).1
  have pos : 0 < (s.bred points g es).state.generation := Nat.succ_pos _
  exact ⟨h.box, h.dim, h.strategy, h.repair, h.table_of_inside h.table.width inside,
    fun hs => absurd hs (evaluated ▸ nofun), fun _ => evaluated, fun _ => pos,
    fun _ => inside⟩

theorem checkStop (h : s.Walled b) (pos : 0 < s.state.generation) :
    s.checkStop.after.Walled b := by
  rcases after_checkStop s with ha | ⟨reason, watch, _, ha⟩
  · rw [ha]
    exact h
  · rw [ha]
    unfold concluded
    split
    · exact h.marks watch s.token _ fun _ => pos
    · exact h.marks watch s.token s.state.status h.ended

/-! ## Steps -/

/-- **A generation keeps a run in its box**, whatever becomes of it. -/
theorem step (h : s.Walled b) (o : Objective Float) (calls : Nat) :
    (s.step o calls).1.after.Walled b := by
  rcases after_step s o calls with ha | ⟨strategy, m, t, hc, _, hf, rfl, ha⟩
  · rw [ha]
    exact h
  have begun := (h.evaluateFirst m o calls).running
  rcases ha with ha | ⟨points, g, es, n, ht, _, ha⟩
  · rw [ha]
    exact begun
  · have plugs := evaluateFirst_plugs s m o calls
    obtain ⟨_, hs, _⟩ := checkReady_eq_ok_iff.1 hc
    have fits := begun.strategy strategy (plugs.2.trans hs)
    rw [ha]
    exact (begun.bred (evaluated_evaluateFirst hf) (begun.holds_trials fits ht) g es).checkStop
      (Nat.succ_pos _)

/-! ## Start values -/

theorem setInitialPopulation (h : s.Walled b) {p : Population Float}
    (lengths : ∀ x ∈ p.rows, x.length = p.width) (ht : s.setInitialPopulation p = .ok t) :
    t.Walled b := by
  obtain ⟨fresh, width, nonempty, rfl⟩ := setInitialPopulation_eq_ok ht
  have rows : ∀ x ∈ p.rows.map s.clip, x.length = s.dim := by
    intro x hx
    obtain ⟨y, hy, rfl⟩ := List.mem_map.1 hx
    exact h.length_of_holds (h.holds_clip ((lengths y hy).trans width))
  exact ⟨h.box, h.dim, h.strategy, h.repair, ⟨width, rows⟩,
    fun _ hp => nonempty (List.map_eq_nil_iff.1 hp), h.begun, h.ended,
    fun hs => absurd hs (fresh ▸ nofun)⟩

theorem setInitialGuess (h : s.Walled b) {x : Point Float} (ht : s.setInitialGuess x = .ok t) :
    t.Walled b := by
  obtain ⟨fresh, length, rfl⟩ := setInitialGuess_eq_ok ht
  have table := h.table.setRow (i := 0) (h.length_of_holds (h.holds_clip length))
  refine ⟨h.box, h.dim, h.strategy, h.repair, table, fun hs hp => h.drawn hs ?_, h.begun, h.ended,
    fun hs => absurd hs (fresh ▸ nofun)⟩
  exact (List.set_eq_nil_iff _ _).1 hp

end Walled

/-! ## The start of a run -/

theorem of_checkBox {dim : Nat} (h : checkBox dim (some b) = .ok ()) : b.dim = dim := by
  by_cases hd : b.dim = dim
  · exact hd
  · simp only [checkBox, if_neg hd] at h
    cases h

theorem of_checkStart {dim size : Nat} (h : checkStart dim (some b) size = .ok ()) :
    size ≠ 0 ∧ b.dim = dim := by
  simp only [checkStart, bind, Except.bind] at h
  split at h
  · cases h
  split at h
  · cases h
  next nonzero =>
    split at h
    · cases h
    next hbox => exact ⟨nonzero, of_checkBox hbox⟩

/-- **A run that is made ready in a box is kept in it from the start.** -/
theorem walled_prepare (fits : ∀ x, s.strategy = some x → x.Fits s.dim)
    (repair : s.constraints.KeepLength) {size : Nat} {seed : Seed}
    (success : (s.prepare (some b) size seed).result = .ok ()) :
    (s.prepare (some b) size seed).after.Walled b := by
  cases hc : checkStart s.dim (some b) size with
  | error e =>
      simp only [prepare, hc] at success
      cases success
  | ok u =>
      obtain ⟨nonzero, dim⟩ := of_checkStart hc
      obtain ⟨table, count⟩ := s.init.table_draw size b seed.generator
      simp only [prepare, hc, Reply.done]
      refine ⟨rfl, dim, fits, repair, dim ▸ table, fun _ hp => nonzero (count ▸ hp ▸ rfl), ?_, ?_,
        ?_⟩
      · exact fun later => absurd later (Nat.lt_irrefl 0)
      · intro ended
        cases ended
      · intro evaluated
        cases evaluated

/-! ## The first success -/

theorem evaluated_checkStop (s : Evolution Float) : s.checkStop.after.evaluated = s.evaluated := by
  rcases after_checkStop s with ha | ⟨reason, watch, _, ha⟩
  · rw [ha]
  · rw [ha]
    unfold concluded
    split <;> rfl

/-- After a generation that succeeds the population is evaluated. -/
theorem evaluated_of_step_ok (h : s.Walled b) {ended : Bool}
    (success : (s.step o calls).1.result = .ok ended) :
    (s.step o calls).1.after.evaluated = true := by
  obtain ⟨_, m, _, ⟨terminated, _, ha⟩ | ⟨_, hf, _, points, g, es, n, rfl, _, _, _, ha⟩⟩ :=
    step_ok success
  · rw [ha]
    exact h.begun (h.ended terminated)
  · rw [ha, evaluated_checkStop]
    exact evaluated_evaluateFirst hf

/-- What was evaluated stays so. -/
theorem evaluated_step (evaluated : s.evaluated = true) (o : Objective Float) (calls : Nat) :
    (s.step o calls).1.after.evaluated = true := by
  rcases after_step s o calls with ha | ⟨_, m, t, _, _, hf, rfl, ha⟩
  · rw [ha]
    exact evaluated
  · rcases ha with ha | ⟨points, g, es, n, _, _, ha⟩
    · rw [ha]
      exact evaluated_evaluateFirst hf
    · rw [ha, evaluated_checkStop]
      exact evaluated_evaluateFirst hf

end Evolution
end BoxSearch

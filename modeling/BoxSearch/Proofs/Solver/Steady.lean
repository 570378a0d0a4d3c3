import BoxSearch.Proofs.Evolution.Invariant
import BoxSearch.Proofs.Solver.Growth

/-!
# The evaluations made before have no part in a generation

An objective is told how many evaluations went before, so a generation could come out
differently when other solvers evaluate the same objective in between.  On a pure
objective it does not, as long as the map of the solver does not count either: such a map
is `Steady`, and all maps of this library are, because they are orderly.

`step_steady` says this of a step of a solver without members: its whole reply, events and
errors included, is the same whatever the number of evaluations made before.
-/

namespace BoxSearch

/-! ## Steady maps -/

namespace EvaluationMap

variable {α : Type} {o : Objective α} {m : EvaluationMap α}

/-- On a pure objective the answers of the map do not depend on the evaluations made
before. -/
def Steady (m : EvaluationMap α) : Prop :=
  ∀ o, o.Pure → ∀ calls calls' xs, (m.evaluate o calls xs).1 = (m.evaluate o calls' xs).1

theorem each_of_pure (pure : o.Pure) (index calls calls' : Nat) (xs : List (Point α)) :
    (each o index calls xs).1 = (each o index calls' xs).1 := by
  unfold each
  refine congrArg (List.mapIdx · xs) ?_
  funext k x
  unfold Objective.evaluateAt
  rw [pure (calls + k) (calls' + k) x]

theorem Orderly.steady (h : m.Orderly) : m.Steady := by
  intro o pure calls calls' xs
  rw [h, h, each_of_pure pure 0 calls calls']

end EvaluationMap

namespace Batch

variable {α : Type} {o : Objective α} {m : EvaluationMap α}

theorem evaluate_steady (steady : m.Steady) (pure : o.Pure) (name : String) (c : Constraints α)
    (calls calls' : Nat) (xs : List (Point α)) :
    (evaluate m name c o calls xs).1 = (evaluate m name c o calls' xs).1 := by
  have h := steady o pure calls calls' xs
  unfold evaluate
  rcases hx : m.evaluate o calls xs with ⟨r, n⟩
  rcases hx' : m.evaluate o calls' xs with ⟨r', n'⟩
  rw [hx, hx'] at h
  cases h
  cases r with
  | error e => rfl
  | ok raw =>
      by_cases hl : raw.length = xs.length
      · simp only [if_pos hl]
        cases c.applyPenalties (xs.zip raw) <;> rfl
      · simp only [if_neg hl]

end Batch

/-! ## Differential evolution -/

namespace Evolution

variable {α : Type} [Scalar α]
variable {s : Evolution α} {o : Objective α} {m : EvaluationMap α} {strategy : Strategy α}

theorem evaluateFirst_steady (steady : m.Steady) (pure : o.Pure) (calls calls' : Nat) :
    (s.evaluateFirst m o calls).1 = (s.evaluateFirst m o calls').1 := by
  have h := Batch.evaluate_steady steady pure ("map '" ++ m.name ++ "'") s.constraints calls calls'
    (s.state.population.rows.map s.finish)
  unfold evaluateFirst evaluateBatch
  split
  · rfl
  · rcases hx : Batch.evaluate m ("map '" ++ m.name ++ "'") s.constraints o calls
      (s.state.population.rows.map s.finish) with ⟨r, n⟩
    rcases hx' : Batch.evaluate m ("map '" ++ m.name ++ "'") s.constraints o calls'
      (s.state.population.rows.map s.finish) with ⟨r', n'⟩
    rw [hx, hx'] at h
    cases h
    cases r <;> simp only [hx, hx']

theorem evolve_steady (steady : m.Steady) (pure : o.Pure) (calls calls' : Nat) :
    (s.evolve strategy m o calls).1 = (s.evolve strategy m o calls').1 := by
  unfold evolve evaluateBatch
  rcases s.trials strategy (List.range s.state.population.size) s.generator with e | ⟨points, g⟩
  · rfl
  · have h := Batch.evaluate_steady steady pure ("map '" ++ m.name ++ "'") s.constraints calls calls'
      points
    simp only
    rcases hx : Batch.evaluate m ("map '" ++ m.name ++ "'") s.constraints o calls points with ⟨r, n⟩
    rcases hx' : Batch.evaluate m ("map '" ++ m.name ++ "'") s.constraints o calls' points with ⟨r', n'⟩
    rw [hx, hx'] at h
    cases h
    cases r <;> rfl

theorem step_steady (steady : ∀ m, s.map = some m → m.Steady) (pure : o.Pure)
    (calls calls' : Nat) : (s.step o calls).1 = (s.step o calls').1 := by
  rcases hc : s.checkReady o with e | ⟨strategy, m⟩
  · rw [step_of_refused hc, step_of_refused hc]
  obtain ⟨_, _, _, hm, _⟩ := checkReady_eq_ok_iff.1 hc
  have h := evaluateFirst_steady (s := s) (steady m hm) pure calls calls'
  unfold step
  simp only [hc]
  split
  · rfl
  · rcases hx : s.evaluateFirst m o calls with ⟨⟨r, t, events⟩, n⟩
    rcases hx' : s.evaluateFirst m o calls' with ⟨⟨r', t', events'⟩, n'⟩
    rw [hx, hx'] at h
    cases h
    cases r with
    | error e => rfl
    | ok u =>
        exact congrArg (Reply.preceded · events) (evolve_steady (steady m hm) pure n n')

/-- A step leaves the map alone. -/
theorem map_step (s : Evolution α) (o : Objective α) (calls : Nat) :
    (s.step o calls).1.after.map = s.map := by
  have inv : Invariant (fun _ => True) fun _ (t : Evolution α) => t.map = s.map :=
    { log := fun _ h => h
      frame := fun _ _ _ h => h
      started := fun _ _ _ _ h => h
      first := fun _ _ _ _ h => h
      bred := fun _ _ _ _ _ _ h => h }
  exact @Invariant.step α _ _ _ s o [] calls inv trivial rfl

end Evolution

/-! ## Compass search -/

namespace Compass

variable {α : Type} [Scalar α]
variable {s : Compass α} {o : Objective α}

theorem evaluateStart_steady (steady : s.map.Steady) (pure : o.Pure) (calls calls' : Nat) :
    (s.evaluateStart o calls).1 = (s.evaluateStart o calls').1 := by
  unfold evaluateStart evaluateBatch
  split
  · rfl
  · cases s.state.population.rows with
    | nil => rfl
    | cons row rows =>
        have h := Batch.evaluate_steady steady pure "map" s.constraints calls calls' [s.finish row]
        simp only
        rcases hx : Batch.evaluate s.map "map" s.constraints o calls [s.finish row] with ⟨r, n⟩
        rcases hx' : Batch.evaluate s.map "map" s.constraints o calls' [s.finish row] with ⟨r', n'⟩
        rw [hx, hx'] at h
        cases h
        cases r <;> rfl

theorem explore_steady (steady : s.map.Steady) (pure : o.Pure) (calls calls' : Nat) :
    (s.explore o calls).1 = (s.explore o calls').1 := by
  unfold explore evaluateBatch
  cases s.probes with
  | error c => rfl
  | ok points =>
      have h := Batch.evaluate_steady steady pure "map" s.constraints calls calls' points
      simp only
      rcases hx : Batch.evaluate s.map "map" s.constraints o calls points with ⟨r, n⟩
      rcases hx' : Batch.evaluate s.map "map" s.constraints o calls' points with ⟨r', n'⟩
      rw [hx, hx'] at h
      cases h
      cases r <;> rfl

theorem map_evaluateStart (calls : Nat) : (s.evaluateStart o calls).1.after.map = s.map := by
  cases hr : (s.evaluateStart o calls).1.result with
  | error e => rw [evaluateStart_error hr]
  | ok u =>
      rcases evaluateStart_ok hr with ⟨_, ha⟩ | ⟨_, _, _, _, _, _, ha⟩
      · rw [ha]
      · rw [ha]
        rfl

theorem advance_steady (steady : s.map.Steady) (pure : o.Pure) (calls calls' : Nat) :
    (s.advance o calls).1 = (s.advance o calls').1 := by
  have h := evaluateStart_steady steady pure calls calls'
  have hm := map_evaluateStart (s := s) (o := o) calls
  unfold advance
  split
  · rfl
  split
  · rfl
  rcases hx : s.evaluateStart o calls with ⟨⟨r, t, events⟩, n⟩
  rcases hx' : s.evaluateStart o calls' with ⟨⟨r', t', events'⟩, n'⟩
  rw [hx] at h hm
  rw [hx'] at h
  cases h
  cases r with
  | error e => rfl
  | ok u =>
      have steady' : t.running.map.Steady := (show t.map = s.map from hm) ▸ steady
      exact congrArg (Reply.preceded · events) (explore_steady steady' pure n n')

theorem step_steady (steady : s.map.Steady) (pure : o.Pure) (calls calls' : Nat) :
    (s.step o calls).1 = (s.step o calls').1 := by
  have h := advance_steady steady pure calls calls'
  unfold step
  rcases hx : s.advance o calls with ⟨reply, n⟩
  rcases hx' : s.advance o calls' with ⟨reply', n'⟩
  rw [hx, hx'] at h
  cases h
  cases hr : reply.result <;> simp only [hr]

/-- A step leaves the map alone. -/
theorem map_step (s : Compass α) (o : Objective α) (calls : Nat) :
    (s.step o calls).1.after.map = s.map := by
  cases hr : (s.step o calls).1.result with
  | error e => rw [step_error hr]
  | ok b =>
      obtain ⟨_, ⟨_, _, ha⟩ | ⟨_, _, t, points, es, n, rfl, _, _, hs, ha⟩⟩ := step_ok hr
      · rw [ha]
      · obtain ⟨reason, watch, _, _, hc⟩ := checkStop_ok hs
        rw [ha, hc]
        have hmove : (move (s.evaluateStart o calls).1.after.running points es).map = s.map := by
          have := map_evaluateStart (s := s) (o := o) calls
          simp only [move]
          split <;> exact this
        unfold concluded
        split <;> exact hmove

end Compass

/-! ## Solvers without members -/

namespace Solver

variable {α : Type} [Scalar α]
variable {s : Solver α} {o : Objective α}

/-- **On a pure objective a step is the same whatever was evaluated before.** -/
theorem step_steady (lone : s.Lone) (steady : ∀ m, s.map? = some m → m.Steady) (pure : o.Pure)
    (calls calls' : Nat) : (s.step o calls).1 = (s.step o calls').1 := by
  cases s with
  | evolution s =>
      exact congrArg (Reply.lift Solver.evolution) (Evolution.step_steady steady pure calls calls')
  | compass s =>
      exact congrArg (Reply.lift Solver.compass)
        (Compass.step_steady (steady s.map rfl) pure calls calls')
  | ensemble f build members => cases lone

theorem map?_step (lone : s.Lone) (o : Objective α) (calls : Nat) :
    (s.step o calls).1.after.map? = s.map? := by
  cases s with
  | evolution s => exact Evolution.map_step s o calls
  | compass s => exact congrArg some (Compass.map_step s o calls)
  | ensemble f build members => cases lone

theorem lone_step (lone : s.Lone) (o : Objective α) (calls : Nat) :
    (s.step o calls).1.after.Lone := by
  cases s with
  | evolution s => trivial
  | compass s => trivial
  | ensemble f build members => cases lone

end Solver
end BoxSearch

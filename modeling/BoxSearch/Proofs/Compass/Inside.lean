import BoxSearch.Proofs.Compass.Step
import BoxSearch.Proofs.Ensemble.Dispatch
import BoxSearch.Proofs.Evolution.Inside

/-!
# Compass search stays in its box

A compass search has one point, and it may leave the box by a step along a coordinate or by
a repair.  But the start point and every probe are repaired and then clipped, so the box
holds what is evaluated, and the search only ever moves to what was evaluated.

`Walled` is the invariant, and `Walled.step` carries it through a generation.
-/

namespace BoxSearch
namespace Compass

variable {b : Box Float} {s t : Compass Float} {o : Objective Float} {calls : Nat}

/-- A search that is kept in a box. -/
structure Walled (b : Box Float) (s : Compass Float) : Prop where
  /-- it searches in the box -/
  box : s.box = some b
  /-- the box has the dimension of the problem -/
  dim : b.dim = s.dim
  /-- repairs keep that dimension -/
  repair : s.constraints.KeepLength
  /-- the point has it -/
  table : s.state.population.Table s.dim
  /-- there is one point -/
  single : s.state.population.rows.length = 1
  /-- a completed generation was evaluated -/
  begun : 0 < s.state.generation → s.evaluated = true
  /-- a run that has ended has completed a generation -/
  ended : s.state.isTerminated = true → 0 < s.state.generation
  /-- what was evaluated is held by the box -/
  inside : s.evaluated = true → s.state.Inside b

/-- A population of one member is that member, once it is replaced. -/
theorem rows_setRow {p : Population Float} (single : p.rows.length = 1) (x : Point Float) :
    (p.setRow 0 x).rows = [x] := by
  obtain ⟨y, hy⟩ := List.length_eq_one_iff.1 single
  rw [Population.setRow, hy]
  rfl

namespace Walled

/-! ## Points -/

/-- A repaired and clipped point is held by the box. -/
theorem holds_finish (h : s.Walled b) {x : Point Float} (hx : x.length = s.dim) :
    b.Holds (s.finish x) := by
  unfold finish
  rw [h.box]
  exact Box.holds_clip ((h.repair x).trans (hx.trans h.dim.symm))

theorem length_of_holds (h : s.Walled b) {x : Point Float} (hx : b.Holds x) :
    x.length = s.dim := hx.length.trans h.dim

theorem holds_probesAlong (h : s.Walled b) (best : b.Holds s.state.bestSolution) {j : Nat}
    {points : List (Point Float)} (hp : s.probesAlong j = .ok points) :
    ∀ x ∈ points, b.Holds x := by
  unfold probesAlong at hp
  dsimp only at hp
  cases hv : entryAt s.state.bestSolution j with
  | error c => rw [hv] at hp; cases hp
  | ok v =>
      cases hh : entryAt s.steps j with
      | error c => simp only [hv, hh, bind, Except.bind] at hp; cases hp
      | ok step =>
          simp only [hv, hh, bind, Except.bind, Except.ok.injEq] at hp
          subst hp
          have length := h.length_of_holds best
          intro x hx
          rcases List.mem_pair.1 hx with rfl | rfl
          · exact h.holds_finish (List.length_set.trans length)
          · exact h.holds_finish (List.length_set.trans length)

/-- Every probe is held by the box. -/
theorem holds_probes (h : s.Walled b) (best : b.Holds s.state.bestSolution)
    {points : List (Point Float)} (hp : s.probes = .ok points) : ∀ x ∈ points, b.Holds x := by
  unfold probes at hp
  cases hm : s.freeCoordinates.mapM s.probesAlong with
  | error c => rw [hm] at hp; cases hp
  | ok pairs =>
      rw [hm] at hp
      cases hp
      intro x hx
      obtain ⟨pair, hpair, hx⟩ := List.mem_flatten.1 hx
      obtain ⟨j, _, hj⟩ := exists_of_mem_mapM hm hpair
      exact h.holds_probesAlong best hj x hx

/-! ## What a step may write -/

/-- Criterion, token and status may change, as long as the status is not made to say that
the run has ended before it has begun. -/
theorem marks (h : s.Walled b) (watch : Option Watch) (token : CancelToken) (status : Status)
    (ended : status.isTerminated = true → 0 < s.state.generation) :
    Walled b { s with watch, token, state := { s.state with status } } where
  box := h.box
  dim := h.dim
  repair := h.repair
  table := h.table
  single := h.single
  begun := h.begun
  ended := ended
  inside hs := ⟨(h.inside hs).rows, (h.inside hs).best⟩

theorem running (h : s.Walled b) : s.running.Walled b := h.marks s.watch s.token .running nofun

/-- The point may be replaced by one that the box holds. -/
theorem moved (h : s.Walled b) {x : Point Float} (hx : b.Holds x) (state : State Float)
    (rows : state.population = s.state.population.setRow 0 x) (best : state.bestSolution = x) :
    state.population.Table s.dim ∧ state.population.rows.length = 1 ∧ state.Inside b := by
  have single := rows_setRow h.single x
  rw [← rows] at single
  refine ⟨rows ▸ h.table.setRow (h.length_of_holds hx), by rw [single]; rfl, ?_, best ▸ hx⟩
  intro y hy
  rw [single] at hy
  rw [List.mem_singleton.1 hy]
  exact hx

theorem evaluateStart (h : s.Walled b) (o : Objective Float) (calls : Nat) :
    (s.evaluateStart o calls).1.after.Walled b := by
  cases hr : (s.evaluateStart o calls).1.result with
  | error e =>
      rw [evaluateStart_error hr]
      exact h
  | ok u =>
      rcases evaluateStart_ok hr with ⟨_, ha⟩ | ⟨_, row, rows, es, hrows, _, ha⟩
      · rw [ha]
        exact h
      · have held := h.holds_finish (h.table.lengths row (hrows ▸ List.mem_cons_self))
        obtain ⟨table, single, inside⟩ := h.moved held
          (s.commitStart (s.finish row) (es.headD Double.nan)).state rfl rfl
        rw [ha]
        exact ⟨h.box, h.dim, h.repair, table, single, fun _ => rfl, h.ended, fun _ => inside⟩

/-- **Moving to a probe stays in the box.** -/
theorem move (h : s.Walled b) (evaluated : s.evaluated = true) {points : List (Point Float)}
    (held : ∀ x ∈ points, b.Holds x) {es : List Float} (hl : es.length = points.length) :
    (s.move points es).Walled b := by
  simp only [Compass.move]
  by_cases improves : (Energy.argmin es).2 < s.state.bestEnergy
  · rw [if_pos improves]
    have place : (Energy.argmin es).1 < points.length :=
      hl ▸ Energy.argmin_lt_length_of_lt improves
    have hx : b.Holds (points.getD (Energy.argmin es).1 []) := by
      rw [List.getD_eq_getElem?_getD, List.getElem?_eq_getElem place]
      exact held _ (List.getElem_mem place)
    obtain ⟨table, single, inside⟩ := h.moved hx { s.state with
      generation := s.state.generation + 1
      evaluations := s.state.evaluations + points.length
      population := s.state.population.setRow 0 (points.getD (Energy.argmin es).1 [])
      energies := s.state.energies.set 0 (Energy.argmin es).2
      bestSolution := points.getD (Energy.argmin es).1 []
      bestEnergy := (Energy.argmin es).2 } rfl rfl
    exact ⟨h.box, h.dim, h.repair, table, single, fun _ => evaluated, fun _ => Nat.succ_pos _,
      fun _ => inside⟩
  · rw [if_neg improves]
    have inside := h.inside evaluated
    exact ⟨h.box, h.dim, h.repair, h.table, h.single, fun _ => evaluated,
      fun _ => Nat.succ_pos _, fun _ => ⟨inside.rows, inside.best⟩⟩

theorem checkStop (h : s.Walled b) (pos : 0 < s.state.generation) {ended : Bool}
    (success : s.checkStop.result = .ok ended) : s.checkStop.after.Walled b := by
  obtain ⟨reason, watch, _, _, ha⟩ := checkStop_ok success
  rw [ha]
  unfold concluded
  split
  · exact h.marks watch s.token _ fun _ => pos
  · exact h.marks watch s.token s.state.status h.ended

/-! ## Steps -/

/-- **A generation keeps a search in its box**, whatever becomes of it. -/
theorem step (h : s.Walled b) (o : Objective Float) (calls : Nat) :
    (s.step o calls).1.after.Walled b := by
  cases hr : (s.step o calls).1.result with
  | error e =>
      rw [step_error hr]
      exact h
  | ok ended =>
      obtain ⟨_, ⟨_, _, ha⟩ | ⟨_, hf, t, points, es, n, rfl, hp, hb, hs, ha⟩⟩ := step_ok hr
      · rw [ha]
        exact h
      · have begun := (h.evaluateStart o calls).running
        have evaluated := evaluated_evaluateStart hf
        have held := begun.holds_probes (begun.inside evaluated).best hp
        rw [ha]
        exact (begun.move evaluated held (Batch.length_of_evaluate hb)).checkStop
          (generation_move points es ▸ Nat.succ_pos _) hs

/-! ## Start values -/

theorem setInitialGuess (h : s.Walled b) {x : Point Float} (ht : s.setInitialGuess x = .ok t) :
    t.Walled b := by
  obtain ⟨fresh, length, rfl⟩ := setInitialGuess_eq_ok ht
  obtain ⟨table, single, _⟩ := h.moved (h.holds_finish length) { s.state with
    population := s.state.population.setRow 0 (s.finish x), bestSolution := s.finish x } rfl rfl
  exact ⟨h.box, h.dim, h.repair, table, single, h.begun, h.ended,
    fun hs => absurd hs (fresh ▸ nofun)⟩

end Walled

/-! ## The start of a run -/

/-- **A search that is made ready in a box is kept in it from the start.** -/
theorem walled_prepare (repair : s.constraints.KeepLength) {size : Nat} {seed : Seed}
    (success : (s.prepare (some b) size seed).result = .ok ()) :
    (s.prepare (some b) size seed).after.Walled b := by
  unfold prepare at success ⊢
  split at success
  · cases success
  next nonzero =>
    rw [if_neg nonzero]
    cases hc : Evolution.checkBox s.dim (some b) with
    | error e =>
        rw [hc] at success
        cases success
    | ok u =>
        have dim : b.dim = s.dim := Evolution.of_checkBox hc
        obtain ⟨table, count⟩ := Sampling.table_uniform 1 b seed.generator
        exact ⟨rfl, dim, repair, dim ▸ table, count, nofun, nofun, nofun⟩

/-! ## The first success -/

/-- After a generation that succeeds the point is evaluated, and it stays so. -/
theorem evaluated_step (h : s.Walled b)
    (due : s.evaluated = true ∨ ∃ ended, (s.step o calls).1.result = .ok ended) :
    (s.step o calls).1.after.evaluated = true := by
  cases hr : (s.step o calls).1.result with
  | error e =>
      rw [step_error hr]
      rcases due with evaluated | ⟨_, success⟩
      · exact evaluated
      · rw [hr] at success
        cases success
  | ok ended =>
      obtain ⟨_, ⟨terminated, _, ha⟩ | ⟨_, hf, t, points, es, n, rfl, _, _, hs, ha⟩⟩ := step_ok hr
      · rw [ha]
        exact h.begun (h.ended terminated)
      · rw [ha, evaluated_checkStop, evaluated_move]
        exact evaluated_evaluateStart hf

end Compass
end BoxSearch

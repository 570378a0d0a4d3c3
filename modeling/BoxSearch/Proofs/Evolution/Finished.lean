import BoxSearch.Proofs.Evolution.Coherence
import BoxSearch.Proofs.Evolution.Inside

/-!
# What the finishing of points guarantees

Every new point of differential evolution is repaired and clipped before it is evaluated.  What a
point is sure to be after that, all evaluated members of a run and its best point are, whatever
the strategy makes and wherever the run leads.

`Finishes` is this invariant, for any property of points; `Finishes.step` carries it through a
generation, whatever becomes of it.
-/

namespace BoxSearch
namespace Evolution

variable {Q : Point Float → Prop} {s t : Evolution Float} {m : EvaluationMap Float}
variable {o : Objective Float} {calls : Nat}

/-- A run whose evaluated points have a property, since every finished point has it. -/
structure Finishes (Q : Point Float → Prop) (s : Evolution Float) : Prop where
  /-- a finished point has it -/
  finish : ∀ x, Q (s.finish x)
  /-- and so has the point without coordinates, which stands for a missing member -/
  nothing : Q []
  /-- a completed generation was evaluated -/
  begun : 0 < s.state.generation → s.evaluated = true
  /-- a run that has ended has completed a generation -/
  ended : s.state.isTerminated = true → 0 < s.state.generation
  /-- what was evaluated has it -/
  points : s.evaluated = true →
    (∀ x ∈ s.state.population.rows, Q x) ∧ Q s.state.bestSolution

namespace Finishes

/-- A member has the property, and so has what stands for a missing one. -/
theorem row (h : s.Finishes Q) {p : Population Float} (rows : ∀ x ∈ p.rows, Q x) (i : Nat) :
    Q (p.row i) := by
  unfold Population.row
  rw [List.getD_eq_getElem?_getD]
  cases member : p.rows[i]? with
  | none => exact h.nothing
  | some x => exact rows x (List.mem_of_getElem? member)

/-- The same settings for the finishing of points, with another state. -/
theorem withState (h : s.Finishes Q) (same : ∀ x, t.finish x = s.finish x)
    (begun : 0 < t.state.generation → t.evaluated = true)
    (ended : t.state.isTerminated = true → 0 < t.state.generation)
    (points : t.evaluated = true →
      (∀ x ∈ t.state.population.rows, Q x) ∧ Q t.state.bestSolution) : t.Finishes Q where
  finish x := same x ▸ h.finish x
  nothing := h.nothing
  begun := begun
  ended := ended
  points := points

theorem marks (h : s.Finishes Q) (watch : Option Watch) (token : CancelToken) (status : Status)
    (ended : status.isTerminated = true → 0 < s.state.generation) :
    Finishes Q { s with watch, token, state := { s.state with status } } :=
  h.withState (fun _ => rfl) h.begun ended h.points

theorem running (h : s.Finishes Q) : s.running.Finishes Q := h.marks s.watch s.token .running nofun

/-! ## A generation -/

theorem commitFirst (h : s.Finishes Q) (es : List Float) :
    (s.commitFirst s.firstRows es).Finishes Q := by
  have rows : ∀ x ∈ s.firstRows, Q x := by
    intro x hx
    obtain ⟨y, _, rfl⟩ := List.mem_map.1 hx
    exact h.finish y
  exact h.withState (fun _ => rfl) (fun _ => rfl) h.ended fun _ => ⟨rows, h.row rows _⟩

theorem evaluateFirst (h : s.Finishes Q) (m : EvaluationMap Float) (o : Objective Float)
    (calls : Nat) : (s.evaluateFirst m o calls).1.after.Finishes Q := by
  cases hr : (s.evaluateFirst m o calls).1.result with
  | error e =>
      rw [evaluateFirst_error hr]
      exact h
  | ok u =>
      rcases evaluateFirst_ok hr with ⟨_, ha⟩ | ⟨_, es, _, ha⟩
      · rw [ha]
        exact h
      · rw [ha]
        exact h.commitFirst es

theorem trials (h : s.Finishes Q) {strategy : Strategy Float} {targets : List Nat}
    {g g' : Generator} {points : List (Point Float)}
    (ht : s.trials strategy targets g = .ok (points, g')) : ∀ x ∈ points, Q x := by
  induction targets generalizing g points with
  | nil =>
      cases ht
      exact nofun
  | cons i targets ih =>
      rw [Evolution.trials] at ht
      cases hg : strategy.generate s.state.population s.state.energies i g with
      | error e => rw [hg] at ht; cases ht
      | ok p =>
          cases hrest : s.trials strategy targets p.2 with
          | error e => simp only [hg, hrest, bind, Except.bind] at ht; cases ht
          | ok q =>
              simp only [hg, hrest, bind, Except.bind, Except.ok.injEq, Prod.mk.injEq] at ht
              obtain ⟨rfl, rfl⟩ := ht
              exact List.forall_mem_cons.2 ⟨h.finish _, ih hrest⟩

theorem bred (h : s.Finishes Q) (evaluated : s.evaluated = true) {points : List (Point Float)}
    (finished : ∀ x ∈ points, Q x) (g : Generator) (es : List Float) :
    (s.bred points g es).Finishes Q := by
  obtain ⟨members, best⟩ := h.points evaluated
  have rows : ∀ x ∈ (select s.state (points.zip es)).population.rows, Q x := by
    intro x hx
    rw [rows_select] at hx
    obtain ⟨p, hp, rfl⟩ := List.mem_map.1 hx
    obtain ⟨i, hi⟩ := List.mem_iff_getElem?.1 hp
    obtain ⟨target, trial, htarget, htrial, rfl⟩ := List.getElem?_zipWith_eq_some.1 hi
    rcases survivor_cases target trial with hs | hs
    · rw [hs]
      exact members _ (List.of_mem_zip (List.mem_of_getElem? htarget)).1
    · rw [hs]
      exact finished _ (List.of_mem_zip (List.mem_of_getElem? htrial)).1
  refine h.withState (fun _ => rfl) (fun _ => evaluated) (fun _ => Nat.succ_pos _)
    fun _ => ⟨rows, ?_⟩
  show Q (select s.state (points.zip es)).bestSolution
  unfold select
  dsimp only
  split
  · exact h.row rows _
  · exact best

theorem checkStop (h : s.Finishes Q) (pos : 0 < s.state.generation) :
    s.checkStop.after.Finishes Q := by
  rcases after_checkStop s with ha | ⟨reason, watch, _, ha⟩
  · rw [ha]
    exact h
  · rw [ha]
    unfold concluded
    split
    · exact h.marks watch s.token _ fun _ => pos
    · exact h.marks watch s.token s.state.status h.ended

/-- **A generation keeps the property**, whatever becomes of it. -/
theorem step (h : s.Finishes Q) (o : Objective Float) (calls : Nat) :
    (s.step o calls).1.after.Finishes Q := by
  rcases after_step s o calls with ha | ⟨strategy, m, t, _, _, hf, rfl, ha⟩
  · rw [ha]
    exact h
  have begun := (h.evaluateFirst m o calls).running
  rcases ha with ha | ⟨points, g, es, n, ht, _, ha⟩
  · rw [ha]
    exact begun
  · rw [ha]
    exact (begun.bred (evaluated_evaluateFirst hf) (begun.trials ht) g es).checkStop
      (Nat.succ_pos _)

/-- After a generation that succeeds the points are evaluated. -/
theorem evaluated_of_step_ok (h : s.Finishes Q) {ended : Bool}
    (success : (s.step o calls).1.result = .ok ended) :
    (s.step o calls).1.after.evaluated = true := by
  obtain ⟨_, m, _, ⟨terminated, _, ha⟩ | ⟨_, hf, _, points, g, es, n, rfl, _, _, _, ha⟩⟩ :=
    step_ok success
  · rw [ha]
    exact h.begun (h.ended terminated)
  · rw [ha, evaluated_checkStop]
    exact evaluated_evaluateFirst hf

/-! ## Other calls -/

theorem setInitialPopulation (h : s.Finishes Q) {p : Population Float}
    (ht : s.setInitialPopulation p = .ok t) : t.Finishes Q := by
  obtain ⟨fresh, _, _, rfl⟩ := setInitialPopulation_eq_ok ht
  exact h.withState (fun _ => rfl) h.begun h.ended fun hs => absurd hs (fresh ▸ nofun)

theorem setInitialGuess (h : s.Finishes Q) {x : Point Float} (ht : s.setInitialGuess x = .ok t) :
    t.Finishes Q := by
  obtain ⟨fresh, _, rfl⟩ := setInitialGuess_eq_ok ht
  exact h.withState (fun _ => rfl) h.begun h.ended fun hs => absurd hs (fresh ▸ nofun)

/-- A run that is made ready in the same box is at its start. -/
theorem prepare (h : s.Finishes Q) (size : Nat) (seed : Seed) :
    (s.prepare s.box size seed).after.Finishes Q := by
  cases hr : (s.prepare s.box size seed).result with
  | error e =>
      have refused : (s.prepare s.box size seed).after = s := by
        unfold Evolution.prepare at hr ⊢
        cases hc : checkStart s.dim s.box size with
        | error e => rfl
        | ok u =>
            rw [hc] at hr
            cases hr
      rw [refused]
      exact h
  | ok u =>
      obtain ⟨generator, population, start⟩ := prepare_ok hr
      rw [start]
      exact h.withState (fun _ => rfl) nofun nofun nofun

end Finishes

end Evolution
end BoxSearch

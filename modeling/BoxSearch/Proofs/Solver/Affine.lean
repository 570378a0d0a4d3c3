import BoxSearch.Proofs.Evolution.Affine
import BoxSearch.Proofs.Solver.Bisimulation

/-!
# Runs in changed variables

Differential evolution does not know in which units its coordinates are measured, nor from
where.  Stretch every coordinate by a positive factor and move it, change the box in the same
way, and read the objective through the inverse change: then a run with the same seed goes
through the changed populations, with the energies, counters and reasons of the run before
the change.

`Changed` relates the two solvers, both do the same things (`bisimulation_changed`), and
`run_of_changed_variables` says what this makes of generations one after the other and of calls
of `solve`.  The coordinates are exact; for rounded ones none of this holds.
-/

namespace BoxSearch
namespace Solver

variable {T : Change} {s t : Solver Rat} {o : Objective Rat} {calls calls' : Nat}

/-- One solver makes the run of another in changed variables. -/
inductive Changed (T : Change) : Solver Rat → Solver Rat → Prop
  | evolution {s : Evolution Rat} (h : s.Covariant T) :
    Changed T (.evolution s) (.evolution (s.changed T))

namespace Changed

theorem turn (h : Changed T s t) (left : Nat) : t.turn left = s.turn left := by
  cases h
  rfl

theorem takeCancel (h : Changed T s t) : Changed T s.takeCancel t.takeCancel := by
  cases h with
  | evolution h => exact .evolution (h.of_settings rfl h.table)

/-- The two solvers, as runs of differential evolution. -/
theorem exists_evolution (h : Changed T s t) :
    ∃ e : Evolution Rat, s = .evolution e ∧ t = .evolution (e.changed T) := by
  cases h with
  | evolution h => exact ⟨_, rfl, rfl⟩

end Changed

/-- Before and after a change of variables, the runs go side by side. -/
theorem bisimulation_changed (T : Change) (pure : o.Pure) :
    Bisimulation (Changed T) o (T.objective o) where
  turn h left := h.turn left
  takeCancel h := h.takeCancel
  step h calls calls' := by
    cases h with
    | @evolution s h =>
        obtain ⟨hr, ha⟩ := Evolution.step_changed h pure calls calls'
        have kept : Changed T (.evolution (s.step o calls).1.after)
            (.evolution ((s.step o calls).1.after.changed T)) := .evolution (h.step o calls)
        rw [← ha] at kept
        exact ⟨hr, kept⟩

/-! ## Runs -/

/-- **The choice of variables does not matter.**  Let `T` stretch every coordinate by a
positive factor and move it.  Take a run of differential evolution on exact coordinates, with
any variant, mutation, crossover rate, way of drawing, size, seed, box and caps, an orderly
map, neither repair nor penalty, and a criterion that does not look at coordinates.  With the
changed box, the solver can be made ready as well; and on the objective of the changed points,
generations one after the other, and calls of `solve` with any budget, have the same results
as before the change and leave the changed run: the changed members and best point, with the
same energies, evaluations, generation and status. -/
theorem run_of_changed_variables (T : Change) (s : Evolution Rat) (b : Box Rat) (size : Nat)
    (seed : Seed) (o : Objective Rat) (d : Differential Rat) (m : EvaluationMap Rat)
    (prepared : (s.prepare (some b) size seed).result = .ok ()) (axes : s.dim = T.dim)
    (plan : s.strategy = some d.toStrategy) (batches : s.map = some m) (orderly : m.Orderly)
    (constraints : s.constraints = .none) (watch : Watch.Tests Test.coordinateFree s.watch)
    (pure : o.Pure) :
    let before := Solver.evolution (s.prepare (some b) size seed).after
    let after := Solver.evolution (s.prepare (some (T.box b)) size seed).after
    (s.prepare (some (T.box b)) size seed).result = .ok () ∧
      (∀ n calls calls',
        (stepped (T.objective o) n after calls').1 = (stepped o n before calls).1 ∧
        ∃ e : Evolution Rat, (stepped o n before calls).2.1 = .evolution e ∧
          (stepped (T.objective o) n after calls').2.1 = .evolution (e.changed T)) ∧
      ∀ budget calls calls',
        (after.solve (fun _ => false) (T.objective o) calls' budget).1.result =
          (before.solve (fun _ => false) o calls budget).1.result ∧
        ∃ e : Evolution Rat, (before.solve (fun _ => false) o calls budget).1.after =
            .evolution e ∧
          (after.solve (fun _ => false) (T.objective o) calls' budget).1.after =
            .evolution (e.changed T) := by
  have covariant : (s.prepare (some b) size seed).after.Covariant T := by
    refine Evolution.covariant_prepare prepared axes ?_ ?_ constraints watch
    · intro x hx
      exact ⟨d, Option.some.inj (hx.symm.trans plan)⟩
    · intro x hx
      exact Option.some.inj (hx.symm.trans batches) ▸ orderly
  obtain ⟨b', hb', dim⟩ := covariant.box
  have same : b' = b := by
    obtain ⟨_, _, after⟩ := Evolution.prepare_ok prepared
    rw [after] at hb'
    exact (Option.some.inj hb').symm
  obtain ⟨ready, start⟩ := Evolution.prepare_changed T (same ▸ dim) size seed prepared
  have first := Changed.evolution covariant
  rw [← start] at first
  refine ⟨ready, fun n calls calls' => ?_, fun budget calls calls' => ?_⟩
  · obtain ⟨results, last⟩ := (bisimulation_changed T pure).stepped first n calls calls'
    exact ⟨results, last.exists_evolution⟩
  · obtain ⟨result, last⟩ :=
      (bisimulation_changed T pure).solveFrom first (budget.getD unlimited) calls calls' [] []
    exact ⟨result, last.exists_evolution⟩

/-! ### Twice as long and half as long -/

/-- A change of two coordinates. -/
def stretching : Change := ⟨[⟨2, 1, by decide +kernel⟩, ⟨1 / 2, -3, by decide +kernel⟩]⟩

/-- A square whose corners have whole coordinates. -/
def exactSquare : Box Rat := ⟨[⟨-1, 1, by decide +kernel⟩, ⟨0, 2, by decide +kernel⟩]⟩

/-- A landscape of three steps along the first coordinate. -/
def exactSteps : Objective Rat :=
  .ofFunction fun x => if x.headD 0 < -1 / 2 then 1 else if x.headD 0 < 1 / 2 then 2 else 3

/-- Differential evolution on exact coordinates that stops when nothing improves. -/
def exactPlane : Evolution Rat :=
  { Evolution.bare 2 false with
    strategy := some (Differential.toStrategy ⟨⟨.currentToBest1, .binomial⟩, .range (1 / 2) 1, 0.5⟩)
    map := some .serial
    watch := some (.ofCriterion (.any [.test (.stagnation 2), .test (.maxGenerations 3)])) }

/-- The run before the change. -/
def exactRun : Solver Rat := .evolution (exactPlane.prepare (some exactSquare) 4 (.number 3)).after

/-- The run after it. -/
def stretchedRun : Solver Rat :=
  .evolution (exactPlane.prepare (some (stretching.box exactSquare)) 4 (.number 3)).after

/-- The stretched run ends in the third generation because nothing improves, as the run
before the change does, and with its energies. -/
theorem run_of_stretched_square :
    ((stretchedRun.solve (fun _ => false) (stretching.objective exactSteps) 5 none).1.result =
        (exactRun.solve (fun _ => false) exactSteps 0 none).1.result ∧
      ∃ e : Evolution Rat, (exactRun.solve (fun _ => false) exactSteps 0 none).1.after =
          .evolution e ∧
        (stretchedRun.solve (fun _ => false) (stretching.objective exactSteps) 5 none).1.after =
          .evolution (e.changed stretching)) ∧
      (exactRun.solve (fun _ => false) exactSteps 0 none).1.after.state.energies = [1, 1, 1, 2] ∧
      (exactRun.solve (fun _ => false) exactSteps 0 none).1.after.state.reason? =
        some "No improvement for 2 generations" := by
  obtain ⟨_, prepared⟩ := exists_ok_of_isOk
    (r := (exactPlane.prepare (some exactSquare) 4 (.number 3)).result) (by decide +kernel)
  have free : Watch.Tests Test.coordinateFree exactPlane.watch := by
    rintro c ⟨⟩
    rfl
  obtain ⟨_, _, solved⟩ := run_of_changed_variables stretching exactPlane exactSquare 4 (.number 3)
    exactSteps _ .serial prepared rfl rfl rfl EvaluationMap.serial_orderly rfl free
    fun _ _ _ => rfl
  refine ⟨?_, by decide +kernel⟩
  unfold exactRun stretchedRun
  exact solved none 0 5

end Solver
end BoxSearch

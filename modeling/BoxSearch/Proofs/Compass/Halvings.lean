import BoxSearch.Proofs.Compass.Mesh
import Mathlib.Algebra.Order.Archimedean.Basic
import Mathlib.Algebra.Order.BigOperators.Group.List
import Mathlib.Algebra.Order.Ring.Rat
import Mathlib.Order.Bounds.Basic
import Mathlib.Tactic.NormNum
import Mathlib.Tactic.Positivity

/-!
# How often a mesh is halved

In exact arithmetic the step lengths of a compass search are a fraction of the box, divided by two
once for every generation that stalled.  The search stops when they are all below the tolerance,
and this bounds the number of these generations.

* `halved_eq`, `converged_refined_iff` — the step lengths after a number of halvings, and when they
  are short enough;
* `exists_isLeast_halvings` — there is a least number of halvings that makes them so;
* `mesh_accounted` — the books of a run in exact arithmetic, with the bound.
-/

namespace BoxSearch
namespace Compass

/-! ## Step lengths -/

theorem half_eq : (Scalar.half : Rat) = 1 / 2 := by
  norm_num [Scalar.half, Scalar.dyadic]

theorem halved_eq (count : Nat) (steps : List Rat) :
    halved count steps = steps.map (· / 2 ^ count) := by
  induction count with
  | zero => simp [halved]
  | succ count ih =>
      rw [halved_succ, ih, List.map_map]
      apply List.map_congr_left
      intro x _
      simp only [Function.comp_apply, half_eq]
      ring

/-- **Halving brings lengths below every tolerance**, and once they are below they stay there. -/
theorem exists_isLeast_halvings {tolerance : Rat} (positive : 0 < tolerance) {js : List Nat}
    {length : Nat → Rat} (nonneg : ∀ j ∈ js, 0 ≤ length j) :
    ∃ least, IsLeast {k : ℕ | ∀ j ∈ js, length j / 2 ^ k < tolerance} least ∧
      ∀ k, least ≤ k → ∀ j ∈ js, length j / 2 ^ k < tolerance := by
  obtain ⟨k, hk⟩ := pow_unbounded_of_one_lt ((js.map length).sum / tolerance)
    (one_lt_two (α := Rat))
  have below : ∀ j ∈ js, length j / 2 ^ k < tolerance := by
    intro j hj
    have le : length j ≤ (js.map length).sum := by
      apply List.single_le_sum
      · simpa using nonneg
      · exact List.mem_map_of_mem hj
    rw [div_lt_iff₀ positive, mul_comm] at hk
    rw [div_lt_iff₀ (by positivity)]
    exact le.trans_lt hk
  have exists_below : ∃ k : ℕ, ∀ j ∈ js, length j / 2 ^ k < tolerance := ⟨k, below⟩
  refine ⟨Nat.find exists_below, ⟨Nat.find_spec exists_below, fun _ => Nat.find_min' _⟩, ?_⟩
  intro k hk j hj
  refine lt_of_le_of_lt ?_ (Nat.find_spec exists_below j hj)
  have finer : (2 : Rat) ^ Nat.find exists_below ≤ 2 ^ k := pow_le_pow_right₀ one_le_two hk
  exact div_le_div_of_nonneg_left (nonneg j hj) (by positivity) finer

/-- When the search has converged after a number of halvings. -/
theorem converged_refined_iff {start : Compass Rat} {initialStep : Rat} {span : List Rat}
    (steps : start.steps = span.map (· * initialStep)) (count : Nat) :
    (start.refined count).converged = true ↔
      ∀ j ∈ start.freeCoordinates,
        initialStep * span.getD j 0 / 2 ^ count < start.tolerance := by
  have length (j : Nat) : (start.refined count).steps.getD j Scalar.zero =
      initialStep * span.getD j 0 / 2 ^ count := by
    simp only [refined, halved_eq, steps, List.map_map, List.getD_eq_getElem?_getD,
      List.getElem?_map]
    cases span[j]? with
    | none => simp [Scalar.zero, Scalar.ofNat]
    | some d => simp [mul_comm]
  simp only [converged, List.all_eq_true, length, decide_eq_true_eq]
  rfl

/-- No side of a box is shorter than nothing. -/
theorem span_getD_nonneg (b : Box Rat) (j : Nat) : 0 ≤ b.span.getD j 0 := by
  simp only [Box.span, List.getD_eq_getElem?_getD, List.getElem?_map]
  cases b.sides[j]? with
  | none => exact le_refl 0
  | some side => exact sub_nonneg.2 side.lower_le_upper

/-- **The mesh of a search in exact arithmetic.**  Make a search ready, in a box or without one,
with a tolerance and a first step that is not negative, and let its user run generations on any
objectives, which may succeed or fail, and change settings between them.  As soon as a generation
has succeeded,

* every step length is the first one, halved once for each generation that brought no improvement;
* the population is the best point with its energy;
* one evaluation was made for the start point, and two for each free coordinate in each generation;
* the course has an entry for each generation, leads to the best pair, and every other generation
  lowered the best energy;
* without free coordinates every generation that succeeds ends the run.

If no generation was committed after the one that ended the run, which can only be where somebody
records a request to stop for a run that has ended (`endedOnce_or_marked`), then

* the generations that brought no improvement are at most as many as the halvings that it takes
  to bring all free step lengths below the tolerance, or there was one;
* without free coordinates there was one generation. -/
theorem mesh_accounted {allowed : Constraints Rat → Prop} {s : Compass Rat} {u : Solver Rat}
    {rs : List (Reply (Solver Rat) Rat Bool)} {box : Option (Box Rat)} {size : Nat}
    {seed : Seed} (positive : 0 < s.tolerance) (nonneg : 0 ≤ s.initialStep)
    (prepared : (s.prepare box size seed).result = .ok ())
    (run : Solver.Ran allowed (.compass (s.prepare box size seed).after) rs u)
    (success : ∃ r ∈ rs, ∃ b, r.result = .ok b) :
    ∃ t, u = .compass t ∧
      t.steps = (Evolution.drawBox s.dim box).span.map
        (fun d => s.initialStep * d / 2 ^ stalls (course rs)) ∧
      (t.state.population.rows = [t.state.bestSolution] ∧
        t.state.energies = [t.state.bestEnergy]) ∧
      t.state.evaluations = 1 + 2 * t.freeCoordinates.length * t.state.generation ∧
      ((course rs).length = t.state.generation + 1 ∧
        (∃ r, (course rs).getLast? = some r ∧ r.point = t.state.bestSolution ∧
          r.energy = t.state.bestEnergy) ∧ Descending (course rs)) ∧
      (t.freeCoordinates = [] → ∀ r ∈ rs, r.result ≠ .ok false) ∧
      (EndedOnce rs →
        (∃ least, IsLeast {k : ℕ | ∀ j ∈ t.freeCoordinates, s.initialStep *
            (Evolution.drawBox s.dim box).span.getD j 0 / 2 ^ k < s.tolerance} least ∧
          stalls (course rs) ≤ max 1 least) ∧
        (t.freeCoordinates = [] → t.state.generation = 1)) := by
  obtain ⟨meshed, first, tolerance⟩ := Meshed.prepared prepared
  have start_kept := kept_prepare prepared
  obtain ⟨t, rfl, h⟩ := Meshed.of_ran start_kept meshed run
  obtain ⟨t', ht', kept⟩ := kept_of_ran start_kept run
  cases ht'
  have evaluated : t.evaluated = true := by
    by_contra hn
    obtain ⟨r, hr, b, hb⟩ := success
    exact (kept.fresh (Bool.eq_false_iff.2 hn)).2.1 r hr b hb
  obtain ⟨charted, begun⟩ := h.begun evaluated
  have free := h.alongside.freeCoordinates
  refine ⟨t, rfl, ?_, ⟨charted.rows, charted.energies⟩, ?_, ⟨charted.counted, ?_,
    charted.descending⟩, ?_, fun once => ?_⟩
  · rw [charted.steps, halved_eq, first, List.map_map]
    apply List.map_congr_left
    intro d _
    simp [mul_comm]
  · rw [free]
    exact charted.spent
  · obtain ⟨before, r, hr, point, energy⟩ := charted.last
    refine ⟨r, ?_, point, energy⟩
    rw [hr, List.getLast?_concat]
  · rw [free]
    exact h.closed
  · obtain ⟨late, again⟩ := h.paced evaluated once
    have converged := converged_refined_iff first
    rw [tolerance, ← free] at converged
    constructor
    · have lengths : ∀ j ∈ t.freeCoordinates,
          0 ≤ s.initialStep * (Evolution.drawBox s.dim box).span.getD j 0 := fun j _ =>
        mul_nonneg nonneg (span_getD_nonneg _ j)
      obtain ⟨least, isLeast, stays⟩ := exists_isLeast_halvings positive lengths
      refine ⟨least, isLeast, ?_⟩
      cases hk : stalls (course rs) with
      | zero => exact Nat.zero_le _
      | succ k =>
          rcases late k hk with rfl | wide
          · exact Nat.le_max_left _ _
          · -- the last of these generations began with a mesh that was too wide
            have before : k < least := by
              by_contra reached
              have narrow := (converged k).2 (stays k (Nat.le_of_not_lt reached))
              cases wide.symm.trans narrow
            exact before.trans_le (Nat.le_max_right _ _)
    · intro none
      have alone : ¬ 1 < t.state.generation := fun later => again later (free ▸ none)
      omega

/-! ### A run along one side of a slab -/

theorem slab_ordered : (-1 : Rat) ≤ 1 := by
  norm_num

/-- A square without height. -/
def slab : Box Rat := ⟨[⟨-1, 1, slab_ordered⟩, ⟨1, 1, le_refl _⟩]⟩

/-- Three stairs along the first coordinate, and nothing at the second evaluation. -/
def stairs : Objective Rat where
  eval n x :=
    if n = 1 then .error (.refused "nobody there")
    else .ok (if x.headD 0 < -1 / 2 then 1 else if x.headD 0 < 1 / 2 then 2 else 3)
  dimension := none

/-- A search on a coarse mesh. -/
def coarse : Compass Rat := withMesh 2 (1 / 4) (1 / 2)

/-- The run of that search down the stairs. -/
def descent (i : Nat) : Reply (Solver Rat) Rat Bool :=
  ((Solver.compass (coarse.prepare (some slab) 1 (.number 2)).after).attempt stairs i).1

/-- The first of these generations failed, the second one improved, and the third one ended the
run. -/
theorem descent_results : failsInEvaluation (descent 0).result = true ∧
    (descent 1).result = .ok false ∧ (descent 2).result = .ok true := by
  have ok_of_toOption {r : Except SolverError Bool} {b : Bool} (h : r.toOption = some b) :
      r = .ok b := by
    cases r with
    | ok x => exact congrArg Except.ok (Option.some.inj h)
    | error e => cases h
  refine ⟨by decide +kernel, ok_of_toOption ?_, ok_of_toOption ?_⟩ <;> decide +kernel

theorem descent_once : EndedOnce ((List.range 3).map descent) := by
  obtain ⟨failed, improved, _⟩ := descent_results
  refine List.Pairwise.cons ?_ (List.Pairwise.cons ?_ (List.pairwise_singleton _ _))
  · intro later _ h
    exact absurd h (ne_ok_of_test failed true)
  · intro later _ h
    cases improved.symm.trans h

/-- The books of that run: it has one generation without improvement, which halved the step length
along the slab, and at least one halving brings this below the tolerance. -/
theorem mesh_accounted_descent :
    ∃ t, (descent 2).after = .compass t ∧ t.steps = [1 / 4, 0] ∧ t.state.evaluations = 5 ∧
      (t.freeCoordinates = [0] ∧ t.state.generation = 2) ∧
      stalls (course ((List.range 3).map descent)) = 1 ∧
      ∃ least, IsLeast {k : ℕ | ∀ j ∈ t.freeCoordinates, coarse.initialStep *
        (Evolution.drawBox coarse.dim (some slab)).span.getD j 0 / 2 ^ k < coarse.tolerance} least ∧
        1 ≤ max 1 least := by
  obtain ⟨failed, improved, ended⟩ := descent_results
  obtain ⟨_, prepared⟩ := exists_ok_of_isOk (r := (coarse.prepare (some slab) 1 (.number 2)).result)
    (by decide +kernel)
  have run : Solver.Ran (fun _ => True) (.compass (coarse.prepare (some slab) 1 (.number 2)).after)
      ((List.range 3).map descent) (descent 2).after := by
    apply Solver.Ran.attempts _ stairs 2
    intro i hi c
    match i, hi with
    | 0, _ => exact ne_fault_of_test failed c
    | 1, _ => exact fun h => by cases improved.symm.trans h
    | 2, _ => exact fun h => by cases ended.symm.trans h
  have one : stalls (course ((List.range 3).map descent)) = 1 := by decide +kernel
  obtain ⟨t, ht, steps, _, spent, _, _, bounded⟩ := mesh_accounted (by decide +kernel)
    (by decide +kernel) prepared run
      ⟨descent 2, List.mem_map_of_mem (List.mem_range.2 (by omega)), true, ended⟩
  obtain ⟨bound, _⟩ := bounded descent_once
  rw [one] at steps bound
  have free : t.freeCoordinates = [0] ∧ t.state.generation = 2 := by
    have same : (match (descent 2).after with
      | .compass t => (t.freeCoordinates, t.state.generation)
      | _ => ([], 0)) = ([0], 2) := by decide +kernel
    rw [ht] at same
    exact Prod.mk.inj same
  refine ⟨t, ht, ?_, ?_, free, one, bound⟩
  · rw [steps]
    decide +kernel
  · rw [spent, free.1, free.2]
    rfl

end Compass
end BoxSearch

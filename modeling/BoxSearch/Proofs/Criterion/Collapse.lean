import BoxSearch.Proofs.Criterion.Inquiry
import BoxSearch.Proofs.Energy.Distance

/-!
# Collapsed populations

A population has collapsed when every member lies close to the best point and has an energy
close to the best one.  The test of it does not ask every member: it measures the largest
distance of a coordinate and the largest distance of an energy, and compares these two.

* `State.IsPointGap`, `State.IsEnergyGap` — the distances that are measured;
* `State.Collapsed` — every one of them is within its tolerance;
* `pointSpread_le_iff`, `energySpread_le_iff` — what the two largest distances say about all of
  them: a missing distance is passed over;
* `stops_collapse_iff` — so the test stops a run exactly when the distances that are not
  missing are within their tolerances, and a population has collapsed exactly when the test
  says so and none is missing.
-/

namespace BoxSearch

namespace State

/-! ## Distances from the best -/

/-- How far a coordinate of a member is from that of the best point. -/
def IsPointGap (s : State Float) (d : Float) : Prop :=
  ∃ x ∈ s.population.rows, ∃ (j : Nat) (a b : Float),
    x[j]? = some a ∧ s.bestSolution[j]? = some b ∧ d = (a - b).abs

/-- How far the energy of a member is from the best one. -/
def IsEnergyGap (s : State Float) (d : Float) : Prop :=
  ∃ e ∈ s.energies, d = (e - s.bestEnergy).abs

/-- There are members, each as wide as the best point and with an energy of its own. -/
structure Filled (s : State Float) : Prop where
  /-- there is a member -/
  members : s.population.rows ≠ []
  /-- a member has the dimension of the best point -/
  widths : ∀ x ∈ s.population.rows, x.length = s.bestSolution.length
  /-- every member has an energy -/
  energies : s.energies.length = s.population.rows.length

/-- The best energy is finite, and every coordinate and every energy is close to the best. -/
structure Collapsed (s : State Float) (xtol ftol : Float) : Prop where
  /-- there is a best energy -/
  finite : Double.isFinite s.bestEnergy = true
  /-- every coordinate is close to that of the best point -/
  points : ∀ d, s.IsPointGap d → d ≤ xtol
  /-- every energy is close to the best one -/
  energies : ∀ d, s.IsEnergyGap d → d ≤ ftol

variable {s : State Float} {d xtol ftol : Float}

theorem IsPointGap.zero_le (h : s.IsPointGap d) (number : d.isNaN = false) : 0 ≤ d := by
  obtain ⟨_, _, _, _, _, _, _, rfl⟩ := h
  exact Double.zero_le_abs number

theorem IsEnergyGap.zero_le (h : s.IsEnergyGap d) (number : d.isNaN = false) : 0 ≤ d := by
  obtain ⟨_, _, rfl⟩ := h
  exact Double.zero_le_abs number

/-- A population with a dimension has a coordinate. -/
theorem Filled.exists_pointGap (filled : s.Filled) (dimension : 0 < s.bestSolution.length) :
    ∃ d, s.IsPointGap d := by
  obtain ⟨x, hx⟩ := List.exists_mem_of_ne_nil _ filled.members
  have width : 0 < x.length := by rwa [filled.widths x hx]
  exact ⟨_, x, hx, 0, x[0], s.bestSolution[0], List.getElem?_eq_getElem width,
    List.getElem?_eq_getElem dimension, rfl⟩

theorem Filled.exists_energyGap (filled : s.Filled) : ∃ d, s.IsEnergyGap d := by
  have some : s.energies ≠ [] := by
    rw [← List.length_pos_iff, filled.energies]
    exact List.length_pos_iff.2 filled.members
  obtain ⟨e, he⟩ := List.exists_mem_of_ne_nil _ some
  exact ⟨_, e, he, rfl⟩

/-- Tolerances that some distances are within are at least zero. -/
theorem Collapsed.zero_le (collapsed : s.Collapsed xtol ftol) (filled : s.Filled)
    (room : 0 < s.bestSolution.length ∨ 0 ≤ xtol) : 0 ≤ xtol ∧ 0 ≤ ftol := by
  constructor
  · rcases room with dimension | tolerance
    · obtain ⟨d, gap⟩ := filled.exists_pointGap dimension
      have within := collapsed.points d gap
      exact Double.le_trans (gap.zero_le (Double.le_iff.1 within).1) within
    · exact tolerance
  · obtain ⟨d, gap⟩ := filled.exists_energyGap
    have within := collapsed.energies d gap
    exact Double.le_trans (gap.zero_le (Double.le_iff.1 within).1) within

end State

/-! ## The largest distances -/

namespace Test

variable {s : State Float} {t xtol ftol : Float}

theorem mem_pointGaps_iff {d : Float} :
    (d ∈ s.population.rows.flatMap fun row =>
      List.zipWith (fun a b => Scalar.abs (a - b)) row s.bestSolution) ↔ s.IsPointGap d := by
  rw [List.mem_flatMap]
  constructor
  · rintro ⟨x, hx, hd⟩
    obtain ⟨j, hj⟩ := List.mem_iff_getElem?.1 hd
    obtain ⟨a, b, ha, hb, rfl⟩ := List.getElem?_zipWith_eq_some.1 hj
    exact ⟨x, hx, j, a, b, ha, hb, rfl⟩
  · rintro ⟨x, hx, j, a, b, ha, hb, rfl⟩
    refine ⟨x, hx, List.mem_of_getElem? (i := j) ?_⟩
    exact List.getElem?_zipWith_eq_some.2 ⟨a, b, ha, hb, rfl⟩

/-- The largest distance of a coordinate is within a tolerance when the distances are that are
not missing. -/
theorem pointSpread_le_iff :
    pointSpread s ≤ t ↔ 0 ≤ t ∧ ∀ d, s.IsPointGap d → d.isNaN = true ∨ d ≤ t := by
  have start : (Scalar.zero : Float).isNaN = false := by decide +kernel
  simp only [pointSpread, Double.passesOver_scalar.foldl_le_iff start, mem_pointGaps_iff]
  exact Iff.rfl

/-- The largest distance of an energy likewise. -/
theorem energySpread_le_iff :
    energySpread s ≤ t ↔ 0 ≤ t ∧ ∀ d, s.IsEnergyGap d → d.isNaN = true ∨ d ≤ t := by
  have start : (0.0 : Float).isNaN = false := by decide +kernel
  have gap (d : Float) :
      (d ∈ s.energies.map fun e => (e - s.bestEnergy).abs) ↔ s.IsEnergyGap d := by
    simp only [List.mem_map, State.IsEnergyGap, eq_comm]
  simp only [energySpread, Double.passesOver_larger.foldl_le_iff start, gap]
  exact Iff.rfl

/-- What the test of a collapse answers. -/
theorem look_collapse_iff (m : Memory) : ((collapse xtol ftol).look s m).1 = true ↔
    s.population.rows ≠ [] ∧ Double.isFinite s.bestEnergy = true ∧ 0 ≤ xtol ∧ 0 ≤ ftol ∧
      (∀ d, s.IsPointGap d → d.isNaN = true ∨ d ≤ xtol) ∧
      ∀ d, s.IsEnergyGap d → d.isNaN = true ∨ d ≤ ftol := by
  have split : ((collapse xtol ftol).look s m).1 = true ↔
      s.population.rows ≠ [] ∧ Double.isFinite s.bestEnergy = true ∧ pointSpread s ≤ xtol ∧
        energySpread s ≤ ftol := by
    simp only [look, Bool.and_eq_true, Bool.not_eq_true', List.isEmpty_eq_false_iff,
      decide_eq_true_eq, and_assoc]
    exact Iff.rfl
  rw [split, pointSpread_le_iff, energySpread_le_iff]
  tauto

end Test

namespace Watch

/-- **The test of a collapse passes over missing distances.**  In a state with members it stops
the run exactly when the best energy is finite, neither tolerance is negative, and every
distance of a coordinate and of an energy from the best is within its tolerance or missing,
and it remembers nothing.  So the population has collapsed exactly when the test says so and no
distance is missing, in every dimension but none, and there for a tolerance that is not
negative. -/
theorem stops_collapse_iff {s : State Float} (filled : s.Filled) (xtol ftol : Float)
    (m : Memory) :
    ∃ stop, (Watch.test (.collapse xtol ftol) m).answer s =
        .ok (stop, .test (.collapse xtol ftol) m) ∧
      (stop = true ↔ Double.isFinite s.bestEnergy = true ∧ 0 ≤ xtol ∧ 0 ≤ ftol ∧
        (∀ d, s.IsPointGap d → d.isNaN = true ∨ d ≤ xtol) ∧
        ∀ d, s.IsEnergyGap d → d.isNaN = true ∨ d ≤ ftol) ∧
      (0 < s.bestSolution.length ∨ 0 ≤ xtol →
        (s.Collapsed xtol ftol ↔
          stop = true ∧ ∀ d, s.IsPointGap d ∨ s.IsEnergyGap d → d.isNaN = false)) := by
  refine ⟨((Test.collapse xtol ftol).look s m).1, answer_test rfl s m, ?_, ?_⟩
  · rw [Test.look_collapse_iff]
    exact and_iff_right filled.members
  · intro room
    rw [Test.look_collapse_iff]
    constructor
    · intro collapsed
      obtain ⟨hx, hf⟩ := collapsed.zero_le filled room
      refine ⟨⟨filled.members, collapsed.finite, hx, hf, ?_, ?_⟩, ?_⟩
      · exact fun d gap => Or.inr (collapsed.points d gap)
      · exact fun d gap => Or.inr (collapsed.energies d gap)
      · rintro d (gap | gap)
        · exact (Double.le_iff.1 (collapsed.points d gap)).1
        · exact (Double.le_iff.1 (collapsed.energies d gap)).1
    · rintro ⟨⟨_, finite, _, _, points, energies⟩, numbers⟩
      refine ⟨finite, ?_, ?_⟩
      · intro d gap
        refine (points d gap).resolve_left ?_
        rw [numbers d (Or.inl gap)]
        exact Bool.false_ne_true
      · intro d gap
        refine (energies d gap).resolve_left ?_
        rw [numbers d (Or.inr gap)]
        exact Bool.false_ne_true

/-- Two members half a unit apart, the second with the given energy. -/
def twoMembers (energy : Float) : State Float where
  generation := 1
  evaluations := 2
  population := ⟨1, [[0], [0.5]]⟩
  energies := [1, energy]
  bestSolution := [0]
  bestEnergy := 1
  status := .running

theorem filled_twoMembers (energy : Float) : (twoMembers energy).Filled :=
  ⟨by simp [twoMembers], by simp [twoMembers], rfl⟩

/-- Two members with energies one and three have collapsed for a tolerance of two, and have not
for a tolerance of one. -/
theorem stops_collapse_twoMembers :
    (∃ stop, (Watch.test (.collapse 1 2) .blank).answer (twoMembers 3) =
        .ok (stop, .test (.collapse 1 2) .blank) ∧
      ((twoMembers 3).Collapsed 1 2 ↔ stop = true ∧
        ∀ d, (twoMembers 3).IsPointGap d ∨ (twoMembers 3).IsEnergyGap d → d.isNaN = false)) ∧
    ((Test.collapse 1 2).look (twoMembers 3) .blank).1 = true ∧
    ((Test.collapse 1 1).look (twoMembers 3) .blank).1 = false := by
  refine ⟨?_, by decide +kernel, by decide +kernel⟩
  obtain ⟨stop, answered, _, collapsed⟩ :=
    stops_collapse_iff (filled_twoMembers 3) 1 2 .blank
  exact ⟨stop, answered, collapsed (Or.inl Nat.one_pos)⟩

/-- **A member without an energy is taken for one that is close**: the test stops the run,
although the population has not collapsed. -/
theorem missing_energy_stops_collapse :
    (twoMembers Double.nan).Filled ∧
    (Watch.test (.collapse 1 1) .blank).answer (twoMembers Double.nan) =
      .ok (true, .test (.collapse 1 1) .blank) ∧
    ¬ (twoMembers Double.nan).Collapsed 1 1 := by
  refine ⟨filled_twoMembers _, ?_, ?_⟩
  · rw [answer_test rfl]
    rfl
  · intro collapsed
    have within := collapsed.energies _ ⟨Double.nan, by simp [twoMembers], rfl⟩
    exact absurd within (by decide +kernel)

end Watch

end BoxSearch

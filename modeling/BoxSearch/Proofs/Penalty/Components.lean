import BoxSearch.Proofs.Penalty.Violations

/-!
# One function, several constraints

A list-valued function whose components are to lie between given ends is turned into penalties:
an inequality for each end of a component, or a single equality if its ends coincide.  Ends count
as coinciding as soon as they are closer than `closeness`, and then only the lower one is kept.  So
these penalties ask for a little more than the ends do.

* `mem_penalties` — a penalty stands for one of the components that have both ends;
* `componentPenalties_satisfied_iff` — what the penalties of one component ask for;
* `penalizes_outside_or_unpinned` — the energy of a point goes up exactly if a component is outside
  its ends, or off the lower one where the two are taken to coincide;
* `penalizes_between_ends` — an energy may go up although every component is between its ends.
-/

namespace BoxSearch

theorem Penalty.mem_clausesAll {α : Type} {ps : List (Penalty α)} {clause : Clause α} :
    clause ∈ clausesAll ps ↔ ∃ p ∈ ps, clause ∈ p.clauses := by
  induction ps with
  | nil => simp [clausesAll]
  | cons p ps ih => simp [clausesAll, ih]

namespace VectorConstraint

/-! ## Places, ends and values -/

section

variable {α : Type}

/-- A component with both ends and a value. -/
structure At (c : VectorConstraint α) (values : List α) (i : Nat) (l u v : α) : Prop where
  /-- the least value -/
  lower : c.lower[i]? = some l
  /-- the largest value -/
  upper : c.upper[i]? = some u
  /-- the value -/
  value : values[i]? = some v

theorem component_eq_ok {c : VectorConstraint α} {x : Point α} {values : List α}
    {i : Nat} {v : α} (value : c.value x = .ok values) (h : values[i]? = some v) :
    c.component i x = .ok v := by
  simp only [component, value, bind, Except.bind, entryAt, h]

variable [Scalar α]

/-- Every component is between its ends. -/
def Between (c : VectorConstraint α) (values : List α) : Prop :=
  ∀ i l u v, c.At values i l u v → l ≤ v ∧ v ≤ u

/-- Every component whose ends are taken to coincide is at the lower one. -/
def Pinned (c : VectorConstraint α) (values : List α) : Prop :=
  ∀ i l u v, c.At values i l u v → Scalar.abs (u - l) < closeness → v = l

variable {c : VectorConstraint α} {inequality equality : α}

/-- A penalty stands for one of the components that have both ends. -/
theorem mem_penalties {p : Penalty α} :
    p ∈ c.penalties inequality equality ↔ ∃ i l u, c.lower[i]? = some l ∧ c.upper[i]? = some u ∧
      p ∈ c.componentPenalties inequality equality i (l, u) := by
  unfold penalties
  rw [List.mem_flatten]
  constructor
  · rintro ⟨ps, hps, hp⟩
    obtain ⟨i, hi, rfl⟩ := List.mem_mapIdx.1 hps
    obtain ⟨hl, hu⟩ := List.getElem?_zip_eq_some.1 (List.getElem?_eq_getElem hi)
    exact ⟨i, _, _, hl, hu, hp⟩
  · rintro ⟨i, l, u, hl, hu, hp⟩
    have ends : (c.lower.zip c.upper)[i]? = some (l, u) :=
      List.getElem?_zip_eq_some.2 ⟨hl, hu⟩
    obtain ⟨hi, entry⟩ := List.getElem?_eq_some_iff.1 ends
    exact ⟨_, List.mem_mapIdx.2 ⟨i, hi, rfl⟩, entry ▸ hp⟩

end

/-! ## One component -/

section

variable {c : VectorConstraint Rat} {x : Point Rat} {inequality equality l u v : Rat} {i : Nat}

/-- The clauses of one component have values there, and count. -/
theorem componentPenalties_count (h : 0 < inequality) (h' : 0 < equality)
    (value : c.component i x = .ok v) {p : Penalty Rat} {clause : Clause Rat}
    (hp : p ∈ c.componentPenalties inequality equality i (l, u)) (hc : clause ∈ p.clauses) :
    0 < clause.weight ∧ clause.Defined x := by
  unfold componentPenalties at hp
  dsimp only at hp
  split at hp
  · cases List.mem_singleton.1 hp
    cases List.mem_singleton.1 hc
    exact ⟨h', v - l, by simp only [value, Except.map]⟩
  · rcases List.mem_pair.1 hp with rfl | rfl
    · cases List.mem_singleton.1 hc
      exact ⟨h, v - u, by simp only [value, Except.map]⟩
    · cases List.mem_singleton.1 hc
      exact ⟨h, l - v, by simp only [value, Except.map]⟩

/-- **What the penalties of one component ask for**: a value between the ends, and at the lower one
if these are taken to coincide. -/
theorem componentPenalties_satisfied_iff (value : c.component i x = .ok v) (ordered : l ≤ u) :
    (∀ p ∈ c.componentPenalties inequality equality i (l, u), ∀ clause ∈ p.clauses,
      clause.Satisfied x) ↔
      (l ≤ v ∧ v ≤ u) ∧ (Scalar.abs (u - l) < closeness → v = l) := by
  have below (a b : Rat) : a - b ≤ Scalar.zero ↔ a ≤ b := sub_nonpos
  have zero (a b : Rat) : ((a - b) == Scalar.zero) = true ↔ a = b :=
    Clause.beq_zero_iff.trans sub_eq_zero
  unfold componentPenalties
  by_cases close : Scalar.abs (u - l) < closeness
  · -- a single equality, which speaks of the lower end only
    simp only [close, if_true, List.forall_mem_singleton, Penalty.clauses, Clause.Satisfied, value,
      Except.map, Except.ok.injEq, exists_eq_left', zero, forall_true_left]
    constructor
    · rintro rfl
      exact ⟨⟨le_rfl, ordered⟩, rfl⟩
    · exact fun kept => kept.2
  · simp only [close, if_false, List.forall_mem_cons, Penalty.clauses, Clause.Satisfied, value,
      Except.map, Except.ok.injEq, exists_eq_left', below, false_imp_iff, and_true]
    constructor
    · rintro ⟨⟨upper, -⟩, ⟨lower, -⟩, -⟩
      exact ⟨lower, upper⟩
    · rintro ⟨lower, upper⟩
      exact ⟨⟨upper, List.forall_mem_nil _⟩, ⟨lower, List.forall_mem_nil _⟩, List.forall_mem_nil _⟩

end

/-! ## All components -/

section

variable {c : VectorConstraint Rat} {x : Point Rat} {values : List Rat}
variable {inequality equality : Rat}

/-- A component with both ends has a value, if the function has enough of them. -/
theorem exists_at (ordered : List.Forall₂ (· ≤ ·) c.lower c.upper)
    (covers : c.lower.length ≤ values.length) {i : Nat} {l u : Rat}
    (hl : c.lower[i]? = some l) (hu : c.upper[i]? = some u) :
    l ≤ u ∧ ∃ v, c.At values i l u v := by
  obtain ⟨hi, rfl⟩ := List.getElem?_eq_some_iff.1 hl
  obtain ⟨hi', rfl⟩ := List.getElem?_eq_some_iff.1 hu
  exact ⟨ordered.get hi hi', values[i], hl, hu, List.getElem?_eq_getElem (by omega)⟩

theorem clauses_count (h : 0 < inequality) (h' : 0 < equality)
    (ordered : List.Forall₂ (· ≤ ·) c.lower c.upper) (value : c.value x = .ok values)
    (covers : c.lower.length ≤ values.length) :
    ∀ clause ∈ (Penalty.set (c.penalties inequality equality)).clauses,
      0 < clause.weight ∧ clause.Defined x := by
  intro clause hc
  obtain ⟨p, hp, hc⟩ := Penalty.mem_clausesAll.1 hc
  obtain ⟨i, l, u, hl, hu, hp⟩ := mem_penalties.1 hp
  obtain ⟨-, v, place⟩ := exists_at ordered covers hl hu
  exact componentPenalties_count h h' (component_eq_ok value place.value) hp hc

/-- All clauses hold where every component is between its ends, and at the lower one if these are
taken to coincide. -/
theorem clauses_satisfied_iff (ordered : List.Forall₂ (· ≤ ·) c.lower c.upper)
    (value : c.value x = .ok values) (covers : c.lower.length ≤ values.length) :
    (∀ clause ∈ (Penalty.set (c.penalties inequality equality)).clauses, clause.Satisfied x) ↔
      c.Between values ∧ c.Pinned values := by
  have one {i : Nat} {l u v : Rat} (place : c.At values i l u v) (le : l ≤ u) :=
    @componentPenalties_satisfied_iff c x inequality equality l u v i
      (component_eq_ok value place.value) le
  constructor
  · intro satisfied
    have asked (i : Nat) (l u v : Rat) (place : c.At values i l u v) :
        (l ≤ v ∧ v ≤ u) ∧ (Scalar.abs (u - l) < closeness → v = l) := by
      have le := (exists_at ordered covers place.lower place.upper).1
      refine (one place le).1 fun p hp clause hc => satisfied clause ?_
      have listed := mem_penalties.2 ⟨i, l, u, place.lower, place.upper, hp⟩
      exact Penalty.mem_clausesAll.2 ⟨p, listed, hc⟩
    exact ⟨fun i l u v place => (asked i l u v place).1,
      fun i l u v place => (asked i l u v place).2⟩
  · rintro ⟨between, pinned⟩ clause hc
    obtain ⟨p, hp, hc⟩ := Penalty.mem_clausesAll.1 hc
    obtain ⟨i, l, u, hl, hu, hp⟩ := mem_penalties.1 hp
    obtain ⟨le, v, place⟩ := exists_at ordered covers hl hu
    exact (one place le).2 ⟨between i l u v place, pinned i l u v place⟩ p hp clause hc

/-- **The penalties of several components add something outside the ends, and only at ends taken to
coincide anything else.**  Let no lower end be above its upper one, both weights be positive, and
the function have a value for each component at a point.  Then in exact arithmetic the energy of
the point does not go down, goes up if some component is outside its ends, and stays exactly if
every component is between its ends and, where these are closer than `closeness`, at the lower one.
Where no two different ends are that close it stays exactly if every component is between its
ends. -/
theorem penalizes_outside_or_unpinned (h : 0 < inequality) (h' : 0 < equality)
    (ordered : List.Forall₂ (· ≤ ·) c.lower c.upper) (value : c.value x = .ok values)
    (covers : c.lower.length ≤ values.length) (f : Rat) :
    ∃ e, (Penalty.set (c.penalties inequality equality)).penalize x f = .ok e ∧ f ≤ e ∧
      (¬ c.Between values → f < e) ∧ (e = f ↔ c.Between values ∧ c.Pinned values) ∧
      ((∀ (i : Nat) (l u : Rat), c.lower[i]? = some l → c.upper[i]? = some u → u - l < closeness →
        l = u) → (e = f ↔ c.Between values)) := by
  have counts := clauses_count h h' ordered value covers
  have nonneg : ∀ clause ∈ (Penalty.set (c.penalties inequality equality)).clauses,
      0 ≤ clause.weight := fun clause hc => le_of_lt (counts clause hc).1
  have defined : ∀ clause ∈ (Penalty.set (c.penalties inequality equality)).clauses,
      clause.Defined x := fun clause hc => (counts clause hc).2
  have total := Penalty.penalize_eq (Penalty.set (c.penalties inequality equality)) nonneg defined f
  generalize costs : (((Penalty.set (c.penalties inequality equality)).clauses.map
    (Clause.cost x)).sum) = added at total
  have least : 0 ≤ added := costs ▸ List.sum_nonneg (Clause.costs_nonneg nonneg)
  have free : added = 0 ↔ c.Between values ∧ c.Pinned values := by
    rw [← clauses_satisfied_iff ordered value covers, ← least.ge_iff_eq', ← not_lt, ← costs,
      Clause.sum_cost_pos_iff nonneg]
    constructor
    · intro none clause hc
      by_contra violated
      have costs := Clause.cost_pos_iff (nonneg clause hc) (defined clause hc)
      exact none ⟨clause, hc, costs.2 ⟨(counts clause hc).1, violated⟩⟩
    · rintro satisfied ⟨clause, hc, positive⟩
      exact ((Clause.cost_pos_iff (nonneg clause hc) (defined clause hc)).1 positive).2
        (satisfied clause hc)
  have stays : f + added = f ↔ c.Between values ∧ c.Pinned values := add_eq_left.trans free
  refine ⟨f + added, total, le_add_of_nonneg_right least, ?_, stays, ?_⟩
  · intro outside
    exact lt_add_of_pos_right f (least.lt_of_ne' fun none => outside (free.1 none).1)
  · intro apart
    rw [stays, and_iff_left_iff_imp]
    intro between i l u v place close
    have le := (exists_at ordered covers place.lower place.upper).1
    have gap : Scalar.abs (u - l) = u - l := if_neg (not_lt.2 (sub_nonneg.2 le))
    have same := apart i l u place.lower place.upper (gap ▸ close)
    obtain ⟨lower, upper⟩ := between i l u v place
    exact le_antisymm (same ▸ upper) lower

end

/-! ## Coordinates between ends -/

/-- The coordinates of a point are to lie between the given ends. -/
def coordinates (lower upper : List Rat) : VectorConstraint Rat := ⟨.ok, lower, upper⟩

/-- The ends of the second coordinate coincide, and at `[3, 1]` it is there while the first one is
above its ends. -/
theorem penalizes_outside_or_unpinned_corner :
    (Penalty.set ((coordinates [0, 1] [2, 1]).penalties 5 7)).penalize [3, 1] 10 = .ok 15 ∧
      (10 : Rat) < 15 ∧ ¬ (coordinates [0, 1] [2, 1]).Between [3, 1] := by
  have outside : ¬ (coordinates [0, 1] [2, 1]).Between [3, 1] := fun between =>
    absurd (between 0 0 2 3 ⟨rfl, rfl, rfl⟩).2 (by decide +kernel)
  obtain ⟨e, value, -, above, -⟩ := @penalizes_outside_or_unpinned (coordinates [0, 1] [2, 1])
    [3, 1] [3, 1] 5 7 (by decide +kernel) (by decide +kernel) (by decide +kernel) rfl le_rfl 10
  have worth : (Penalty.set ((coordinates [0, 1] [2, 1]).penalties 5 7)).penalize [3, 1] 10 =
      .ok (15 : Rat) := by decide +kernel
  cases worth.symm.trans value
  exact ⟨worth, above outside, outside⟩

/-- **A penalty between the ends.**  The ends `0` and `2⁻⁶⁰` are taken to coincide, so a coordinate
at the upper one counts as a violation of the lower one. -/
theorem penalizes_between_ends :
    (coordinates [0] [1 / 2 ^ 60]).Between [1 / 2 ^ 60] ∧
      (Penalty.set ((coordinates [0] [1 / 2 ^ 60]).penalties 1 (2 ^ 120))).penalize [1 / 2 ^ 60] 0 =
        .ok (1 : Rat) := by
  constructor
  · rintro i l u v ⟨hl, hu, hv⟩
    cases i with
    | zero =>
        cases hl
        cases hu
        cases hv
        decide +kernel
    | succ i => cases hl
  · decide +kernel

end VectorConstraint

end BoxSearch

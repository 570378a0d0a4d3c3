import BoxSearch.Proofs.Energy.Order
import BoxSearch.Proofs.EvaluationMap.Faithful
import BoxSearch.Proofs.Evolution.Step

/-!
# Population, energies and best point

Members, energies and the best pair are written together in two places: when the drawn
population got its energies, and when the trials compete with their targets.  This file
says what each of the two does to them, as facts about states alone:

* the members after a selection have whatever members and trials had, point by point
  (`forall₂_select`);
* no energy gets worse by a selection (`noWorse_select`), so the best energy stays the
  lowest (`tidy_select`);
* a state that comes later in a run is never worse, energy by energy (`Descended`);
* a best energy below infinity is found together with its point (`row_argmin`,
  `best_select`).

The numbers of points and energies that go into the two are the business of the batches:
`Batch.length_of_evaluate` and `length_of_allTrials`.
-/

namespace BoxSearch

/-! ## As many energies as points -/

namespace Constraints

variable {α : Type} {c : Constraints α} {pairs : List (Point α × Float)} {es : List Float}

/-- The penalties of a batch are those of its points, one by one. -/
theorem applyPenalties_eq_ok (h : c.applyPenalties pairs = .ok es) :
    List.Forall₂ (fun p e => c.applyPenalty p.1 p.2 = .ok e) pairs es := by
  induction pairs generalizing es with
  | nil =>
      cases h
      exact .nil
  | cons p pairs ih =>
      obtain ⟨x, v⟩ := p
      rw [applyPenalties] at h
      cases hp : c.applyPenalty x v with
      | error e => rw [hp] at h; cases h
      | ok w =>
          rw [hp] at h
          cases hrest : c.applyPenalties pairs with
          | error e => rw [hrest] at h; cases h
          | ok ws =>
              rw [hrest] at h
              cases h
              exact .cons hp (ih hrest)

end Constraints

namespace Batch

variable {α : Type} {o : Objective α} {m : EvaluationMap α} {c : Constraints α}
variable {f : Point α → Float} {name : String} {calls : Nat} {xs : List (Point α)}
variable {es : List Float}

/-- A batch that succeeds has one energy per point. -/
theorem length_of_evaluate (h : (evaluate m name c o calls xs).1 = .ok es) :
    es.length = xs.length := by
  obtain ⟨vs, _, hl, hp⟩ := evaluate_eq_ok h
  have hlen := (Constraints.applyPenalties_eq_ok hp).length_eq
  rw [List.length_zip, hl, Nat.min_self] at hlen
  exact hlen.symm

/-- The energies of points on a function are its penalised values. -/
theorem of_energies_eq_some (h : energies c f xs = some es) :
    List.Forall₂ (fun x e => c.applyPenalty x (f x) = .ok e) xs es := by
  unfold energies at h
  cases hp : c.applyPenalties (xs.zip (xs.map f)) with
  | error e => rw [hp] at h; cases h
  | ok ws =>
      rw [hp] at h
      cases h
      have hpairs : xs.zip (xs.map f) = xs.map fun x => (x, f x) := by
        rw [← List.zip_map', List.map_id']
      have hall := Constraints.applyPenalties_eq_ok hp
      rw [hpairs, List.forall₂_map_left_iff] at hall
      exact hall

end Batch

namespace Evolution

variable {α : Type} [Scalar α]

theorem length_of_trials {s : Evolution α} {strategy : Strategy α} {targets : List Nat}
    {g g' : Generator} {points : List (Point α)}
    (h : s.trials strategy targets g = .ok (points, g')) : points.length = targets.length := by
  induction targets generalizing g points with
  | nil =>
      cases h
      rfl
  | cons target targets ih =>
      rw [trials] at h
      rcases hg : strategy.generate s.state.population s.state.energies target g with e | ⟨x, g₁⟩
      · rw [hg] at h; cases h
      rw [hg] at h
      rcases hr : s.trials strategy targets g₁ with e | ⟨rest, g₂⟩
      · simp only [bind, Except.bind, hr] at h
        cases h
      · simp only [bind, Except.bind, hr] at h
        cases h
        rw [List.length_cons, ih hr, List.length_cons]

end Evolution

/-! ## Pairs of a point and its energy -/

section Pairs

variable {α : Type} {R : Point α → Float → Prop} {xs : List (Point α)} {es : List Float}
variable {pairs : List (Point α × Float)}

/-- A relation between points and energies holds row by row when it holds of every pair. -/
theorem forall₂_map_pairs :
    List.Forall₂ R (pairs.map (·.1)) (pairs.map (·.2)) ↔ ∀ p ∈ pairs, R p.1 p.2 := by
  rw [List.forall₂_map_left_iff, List.forall₂_map_right_iff, List.forall₂_same]

theorem of_mem_zip (h : List.Forall₂ R xs es) {p : Point α × Float} (hp : p ∈ xs.zip es) :
    R p.1 p.2 :=
  List.forall₂_zip h hp

theorem forall₂_zipWith {β γ δ : Type} {S : δ → β → Prop} {g : β → γ → δ} {l : List β}
    {l' : List γ} (hl : l'.length = l.length) (h : ∀ x y, S (g x y) x) :
    List.Forall₂ S (List.zipWith g l l') l := by
  induction l generalizing l' with
  | nil => exact .nil
  | cons x l ih =>
      cases l' with
      | nil => cases hl
      | cons y l' => exact .cons (h x y) (ih (Nat.succ.inj hl))

/-- The row with the lowest energy has that energy, when it is below infinity. -/
theorem row_argmin (population : Population α) (h : List.Forall₂ R population.rows es)
    (below : (Energy.argmin es).2 < Double.infinity) :
    R (population.row (Energy.argmin es).1) (Energy.argmin es).2 := by
  have he := Energy.getElem?_argmin below
  obtain ⟨hi, hget⟩ := List.getElem?_eq_some_iff.1 he
  have hi' : (Energy.argmin es).1 < population.rows.length := by rwa [h.length_eq]
  have hrow : population.row (Energy.argmin es).1 = population.rows[(Energy.argmin es).1] := by
    simp only [Population.row, List.getD_eq_getElem?_getD, List.getElem?_eq_getElem hi',
      Option.getD_some]
  rw [hrow, ← hget]
  exact (List.forall₂_iff_get.1 h).2 _ hi' hi

end Pairs

/-! ## The selection -/

namespace Evolution

variable {α : Type}

theorem survivor_of_le {target trial : Point α × Float} (h : trial.2 ≤ target.2) :
    survivor target trial = trial := by
  rw [survivor, accepts, if_pos (decide_eq_true h)]

theorem survivor_of_not_le {target trial : Point α × Float} (h : ¬ trial.2 ≤ target.2) :
    survivor target trial = target := by
  rw [survivor, accepts, decide_eq_false h, if_neg Bool.false_ne_true]

theorem survivor_cases (target trial : Point α × Float) :
    survivor target trial = target ∨ survivor target trial = trial := by
  by_cases h : trial.2 ≤ target.2
  · exact Or.inr (survivor_of_le h)
  · exact Or.inl (survivor_of_not_le h)

theorem noWorse_survivor (target trial : Point α × Float) :
    Energy.NoWorse (survivor target trial).2 target.2 := by
  by_cases h : trial.2 ≤ target.2
  · rw [survivor_of_le h]
    exact Or.inr h
  · rw [survivor_of_not_le h]
    exact .refl _

/-- The members and energies after a selection, as pairs. -/
def survivors (state : State α) (trials : List (Point α × Float)) : List (Point α × Float) :=
  List.zipWith survivor (state.population.rows.zip state.energies) trials

variable {state : State α} {trials : List (Point α × Float)} {R : Point α → Float → Prop}

theorem rows_select : (select state trials).population.rows = (survivors state trials).map (·.1) :=
  rfl

theorem energies_select : (select state trials).energies = (survivors state trials).map (·.2) :=
  rfl

theorem bestEnergy_select :
    (select state trials).bestEnergy =
      Energy.improve state.bestEnergy (select state trials).energies := rfl

/-- Whatever holds of members and trials holds of the members after the selection. -/
theorem forall₂_select (old : List.Forall₂ R state.population.rows state.energies)
    (new : ∀ p ∈ trials, R p.1 p.2) :
    List.Forall₂ R (select state trials).population.rows (select state trials).energies := by
  rw [rows_select, energies_select, forall₂_map_pairs]
  intro p hp
  obtain ⟨i, hi⟩ := List.mem_iff_getElem?.1 hp
  obtain ⟨target, trial, htarget, htrial, rfl⟩ := List.getElem?_zipWith_eq_some.1 hi
  rcases survivor_cases target trial with h | h
  · rw [h]
    exact of_mem_zip old (List.mem_of_getElem? htarget)
  · rw [h]
    exact new _ (List.mem_of_getElem? htrial)

/-- **A selection makes no energy worse**, given one trial per member. -/
theorem noWorse_select (aligned : state.population.rows.length = state.energies.length)
    (hl : trials.length = state.population.rows.length) :
    List.Forall₂ Energy.NoWorse (select state trials).energies state.energies := by
  have targets : state.energies = (state.population.rows.zip state.energies).map (·.2) :=
    (List.map_snd_zip aligned.ge).symm
  have hlen : trials.length = (state.population.rows.zip state.energies).length := by
    rw [hl, List.length_zip, ← aligned, Nat.min_self]
  rw [energies_select, targets, List.forall₂_map_left_iff, List.forall₂_map_right_iff]
  exact forall₂_zipWith hlen fun target trial => noWorse_survivor target trial

end Evolution

/-! ## States whose best energy is the lowest -/

/-- There are as many energies as members, and the best energy is the lowest of them. -/
structure State.Tidy {α : Type} (state : State α) : Prop where
  /-- one energy per member -/
  aligned : state.population.rows.length = state.energies.length
  /-- the best energy is the lowest -/
  lowest : Energy.IsLowest state.bestEnergy state.energies

namespace Evolution

variable {α : Type} {state : State α} {trials : List (Point α × Float)}
variable {R : Point α → Float → Prop}

theorem tidy_select (tidy : state.Tidy) (hl : trials.length = state.population.rows.length) :
    (select state trials).Tidy where
  aligned := by rw [rows_select, energies_select, List.length_map, List.length_map]
  lowest := by
    rw [bestEnergy_select]
    exact tidy.lowest.improve (noWorse_select tidy.aligned hl)

/-- The best point and its energy stay together in a selection. -/
theorem best_select
    (members : List.Forall₂ R (select state trials).population.rows (select state trials).energies)
    (best : state.bestEnergy < Double.infinity → R state.bestSolution state.bestEnergy)
    (below : (select state trials).bestEnergy < Double.infinity) :
    R (select state trials).bestSolution (select state trials).bestEnergy := by
  by_cases improves : (Energy.argmin (select state trials).energies).2 < state.bestEnergy
  · have hs : (select state trials).bestSolution = (select state trials).population.row
        (Energy.argmin (select state trials).energies).1 := if_pos improves
    have he : (select state trials).bestEnergy =
        (Energy.argmin (select state trials).energies).2 := if_pos improves
    rw [he] at below
    rw [hs, he]
    exact row_argmin _ members below
  · have hs : (select state trials).bestSolution = state.bestSolution := if_neg improves
    have he : (select state trials).bestEnergy = state.bestEnergy := if_neg improves
    rw [he] at below
    rw [hs, he]
    exact best below

/-- A state that comes after a given one in a run: no energy got worse, and the best
one did not rise. -/
structure Descended (before after : State α) : Prop where
  /-- energies and best pair fit together -/
  tidy : after.Tidy
  /-- no energy is worse -/
  energies : List.Forall₂ Energy.NoWorse after.energies before.energies
  /-- nor is the best one -/
  best : Energy.NoWorse after.bestEnergy before.bestEnergy

theorem Descended.refl {state : State α} (tidy : state.Tidy) : Descended state state :=
  ⟨tidy, Energy.NoWorse.all_refl _, .refl _⟩

/-- One selection more. -/
theorem Descended.select {before state : State α} {trials : List (Point α × Float)}
    (h : Descended before state) (hl : trials.length = state.population.rows.length) :
    Descended before (select state trials) where
  tidy := tidy_select h.tidy hl
  energies := Energy.NoWorse.all_trans (noWorse_select h.tidy.aligned hl) h.energies
  best := by
    rw [bestEnergy_select]
    exact (Energy.noWorse_improve _ _).trans h.best

variable [Scalar α] {s : Evolution α} {rows : List (Point α)} {es : List Float}

theorem tidy_commitFirst (hl : es.length = rows.length) : (s.commitFirst rows es).state.Tidy where
  aligned := hl.symm
  lowest := Energy.isLowest_argmin es

variable {points : List (Point α)} {g : Generator} {o : Objective α} {m : EvaluationMap α}
variable {strategy : Strategy α} {n : Nat}

theorem length_of_allTrials (h : s.allTrials strategy = .ok (points, g)) :
    points.length = s.state.population.rows.length := by
  rw [length_of_trials h, List.length_range, Population.size]

/-- Trials that got their energies are as many as there are members. -/
theorem length_of_batch (ht : s.allTrials strategy = .ok (points, g))
    (hb : (s.evaluateBatch m o n points).1 = .ok es) :
    (points.zip es).length = s.state.population.rows.length := by
  rw [List.length_zip, Batch.length_of_evaluate hb, Nat.min_self, length_of_allTrials ht]

end Evolution
end BoxSearch

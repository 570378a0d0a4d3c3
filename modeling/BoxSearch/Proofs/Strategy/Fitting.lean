import BoxSearch.Proofs.Energy.Order
import BoxSearch.Proofs.Sampling.Table
import BoxSearch.Strategy.Trial

/-!
# Trials have the dimension of the members

A strategy `Fits` a dimension when its trials have it, provided that the population is a
table of that dimension.  Every variant of differential evolution fits every dimension
(`Differential.fits`): the members that it picks are members, so mutants are as long as
they are, and both kinds of crossover keep the length of the target.
-/

namespace BoxSearch

/-- The trials of a strategy have a dimension whenever the members of the population do. -/
def Strategy.Fits {α : Type} (dim : Nat) (strategy : Strategy α) : Prop :=
  ∀ p es target g x g', p.Table dim → strategy.generate p es target g = .ok (x, g') →
    x.length = dim

variable {γ : Type} [WordSource γ]

/-! ## What a shuffle picks -/

namespace Shuffle

variable {β : Type}

theorem perm_swapIfInBounds (xs : Array β) (i j : Nat) :
    (xs.swapIfInBounds i j).toList.Perm xs.toList := by
  unfold Array.swapIfInBounds
  split
  · split
    · exact (Array.swap_perm _ _).toList
    · exact .refl _
  · exact .refl _

/-- The elements that are swapped stay the same ones. -/
theorem perm_walk (count i : Nat) (b : IndexBatch) (xs : Array β) (g : γ) :
    (walk count i b xs g).1.toList.Perm xs.toList := by
  induction count generalizing i b xs g with
  | zero => exact .refl _
  | succ count ih =>
      rw [walk]
      generalize b.index g = drawn
      exact (ih _ _ _ _).trans (perm_swapIfInBounds xs i drawn.1)

theorem mem_of_mem_pick {xs : List β} {k : Nat} {g : γ} {x : β} (h : x ∈ (pick xs k g).1) :
    x ∈ xs := by
  have hx := List.mem_of_mem_drop h
  exact (perm_walk _ _ _ xs.toArray g).mem_iff.1 hx

theorem lt_of_mem_distinctIndices {excluded count size i : Nat} {g : γ}
    (h : i ∈ (distinctIndices excluded count size g).1) : i < size :=
  List.mem_range.1 (List.mem_filter.1 (mem_of_mem_pick h)).1

end Shuffle

/-! ## Lengths -/

variable {α : Type}

/-- A mutant of points of one dimension has that dimension. -/
theorem Formula.length_mutant [Scalar α] {dim : Nat} {current best : Point α}
    {picked : List (Point α)} (formula : Formula) (f : α) (hc : current.length = dim) (hb : best.length = dim)
    (hp : ∀ x ∈ picked, x.length = dim) :
    (formula.mutant f current best picked).length = dim := by
  unfold mutant
  split <;> simp_all [Point.add, Point.sub, Point.scale]

namespace Crossover

theorem length_binomialFrom (always : Nat) (rate : Float) (i : Nat) (target mutant : Point α)
    (g : γ) : (binomialFrom always rate i target mutant g).1.length = target.length := by
  induction target generalizing i mutant g with
  | nil => simp only [binomialFrom]
  | cons t target ih =>
      cases mutant with
      | nil => simp only [binomialFrom]
      | cons m mutant =>
          rw [binomialFrom]
          split <;> exact congrArg (· + 1) (ih _ _ _)

/-- A trial is as long as the target and the mutant. -/
theorem length_trial (c : Crossover) (rate : Float) {target mutant : Point α}
    (h : mutant.length = target.length) (g : γ) :
    (c.trial rate target mutant g).1.length = target.length := by
  cases c with
  | binomial => exact length_binomialFrom _ rate 0 target mutant _
  | exponential => simp [trial, exponentialTrial, h]

end Crossover

/-! ## Differential evolution -/

namespace Differential

variable {d : Differential α} {dim target : Nat} {p : Population α} {es : List Float}

theorem of_check (h : d.check p es target = .ok ()) : target < p.size ∧ es.length = p.size := by
  simp only [check, checkPopulation, bind, Except.bind] at h
  split at h
  · cases h
  split at h
  · cases h
  next htarget =>
    split at h
    · cases h
    next hes => exact ⟨Nat.lt_of_not_le htarget, not_ne_iff.1 hes⟩

theorem minPopulation_le_of_check (h : d.check p es target = .ok ()) :
    d.variant.minPopulation ≤ p.size := by
  by_contra few
  simp only [check, checkPopulation, if_pos (Nat.lt_of_not_le few), bind, Except.bind] at h
  cases h

/-- Nothing is refused in a large enough table with its energies. -/
theorem check_eq_ok (table : p.Table dim) (wide : 0 < dim)
    (enough : d.variant.minPopulation ≤ p.size) (htarget : target < p.size)
    (hes : es.length = p.size) : d.check p es target = .ok () := by
  have coordinates : (p.row target).isEmpty = false := by
    rw [List.isEmpty_eq_false_iff, ← List.length_pos_iff, table.length_row htarget]
    exact wide
  simp only [check, checkPopulation, if_neg (Nat.not_lt_of_le enough),
    if_neg (Nat.not_le_of_lt htarget), hes, ne_eq, not_true_eq_false, if_false, coordinates, bind,
    Except.bind, Bool.false_eq_true]

/-- The best member is a member, as soon as there is one. -/
theorem argmin_lt_size (htarget : target < p.size) (hes : es.length = p.size) :
    (Energy.argmin es).1 < p.size :=
  hes ▸ Energy.argmin_lt_length (List.ne_nil_of_length_pos (by omega))

variable [Scalar α]

/-- The members picked for a trial, after the factor was drawn. -/
def picked (d : Differential α) (p : Population α) (target : Nat) (g : γ) : List Nat :=
  (Shuffle.distinctIndices target d.variant.required p.size (d.mutation.sample g).2).1

/-- The mutant of a trial. -/
def mutant (d : Differential α) (p : Population α) (es : List Float) (target : Nat) (g : γ) :
    Point α :=
  d.variant.formula.mutant (d.mutation.sample g).1 (p.row target) (p.row (Energy.argmin es).1)
    ((d.picked p target g).map p.row)

theorem lt_of_mem_picked {g : γ} {i : Nat} (h : i ∈ d.picked p target g) : i < p.size :=
  Shuffle.lt_of_mem_distinctIndices h

/-- The mutant of a trial has the dimension of the members. -/
theorem length_mutant {g : γ} (table : p.Table dim) (htarget : target < p.size)
    (hes : es.length = p.size) : (d.mutant p es target g).length = dim := by
  refine d.variant.formula.length_mutant _ (table.length_row htarget)
    (table.length_row (argmin_lt_size htarget hes)) fun x hx => ?_
  obtain ⟨i, hi, rfl⟩ := List.mem_map.1 hx
  exact table.length_row (lt_of_mem_picked hi)

theorem length_trial (d : Differential α) (table : p.Table dim) (htarget : target < p.size)
    (hes : es.length = p.size) (g : γ) : (d.trial p es target g).1.length = dim := by
  have hcurrent : (p.row target).length = dim := table.length_row htarget
  have hmutant : (d.mutant p es target g).length = dim := length_mutant table htarget hes
  exact (Crossover.length_trial d.variant.crossover d.rate (hmutant.trans hcurrent.symm) _).trans
    hcurrent

/-- **Every variant of differential evolution fits every dimension.** -/
theorem fits (d : Differential α) (dim : Nat) : d.toStrategy.Fits dim := by
  intro p es target g x g' table h
  simp only [toStrategy, generate] at h
  cases hcheck : d.check p es target with
  | error e =>
      rw [hcheck] at h
      cases h
  | ok u =>
      rw [hcheck] at h
      obtain ⟨htarget, hes⟩ := of_check hcheck
      have hx : (d.trial p es target g).1 = x := congrArg Prod.fst (Except.ok.inj h)
      rw [← hx]
      exact d.length_trial table htarget hes g

end Differential
end BoxSearch

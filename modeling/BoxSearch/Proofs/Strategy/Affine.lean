import BoxSearch.Proofs.Box.Affine
import BoxSearch.Proofs.Strategy.Fitting

/-!
# Trials in changed variables

A mutant is a member plus weighted differences of members, so its coefficients amount to one,
and the change of the mutant is the mutant of the changed members (`Formula.mutant_point`).
Crossover chooses between coordinates without looking at them.  So the trial of a changed
population is the changed trial, with the same words taken from the source
(`Differential.generate_population`).
-/

namespace BoxSearch

variable {γ : Type} [WordSource γ] (T : Change)

/-! ## Mutants -/

/-- Coefficients that amount to one make the change of a point. -/
theorem Change.blend_of_eq_one {w : Rat} (h : w = 1) (x : Point Rat) : T.blend w x = T.point x := by
  rw [h, T.blend_one]

/-- **The mutant of changed members is the changed mutant**: in each formula the coefficients
amount to one, whatever the factor is. -/
theorem Formula.mutant_point (formula : Formula) (f : Rat) (current best : Point Rat)
    (picked : List (Point Rat)) :
    formula.mutant f (T.point current) (T.point best) (picked.map T.point) =
      T.point (formula.mutant f current best picked) := by
  cases formula with
  | best1 =>
      rcases picked with _ | ⟨a, _ | ⟨b, _⟩⟩
      · rfl
      · rfl
      · show (T.point best).add (((T.point a).sub (T.point b)).scale f) = _
        simp only [← T.blend_one best, ← T.blend_one a, ← T.blend_one b, T.blend_sub, T.blend_scale,
          T.blend_add]
        exact T.blend_of_eq_one (by ring) _
  | rand1 =>
      rcases picked with _ | ⟨a, _ | ⟨b, _ | ⟨c, _⟩⟩⟩
      · rfl
      · rfl
      · rfl
      · show (T.point a).add (((T.point b).sub (T.point c)).scale f) = _
        simp only [← T.blend_one a, ← T.blend_one b, ← T.blend_one c, T.blend_sub, T.blend_scale,
          T.blend_add]
        exact T.blend_of_eq_one (by ring) _
  | rand2 =>
      rcases picked with _ | ⟨a, _ | ⟨b, _ | ⟨c, _ | ⟨d, _ | ⟨e, _⟩⟩⟩⟩⟩
      · rfl
      · rfl
      · rfl
      · rfl
      · rfl
      · show (T.point a).add (((((T.point b).add (T.point c)).sub (T.point d)).sub
          (T.point e)).scale f) = _
        simp only [← T.blend_one a, ← T.blend_one b, ← T.blend_one c, ← T.blend_one d,
          ← T.blend_one e, T.blend_sub, T.blend_scale, T.blend_add]
        exact T.blend_of_eq_one (by ring) _
  | currentToBest1 =>
      rcases picked with _ | ⟨a, _ | ⟨b, _⟩⟩
      · rfl
      · rfl
      · show (T.point current).add ((((T.point best).sub (T.point current)).add
          ((T.point a).sub (T.point b))).scale f) = _
        simp only [← T.blend_one current, ← T.blend_one best, ← T.blend_one a, ← T.blend_one b,
          T.blend_sub, T.blend_scale, T.blend_add]
        exact T.blend_of_eq_one (by ring) _
  | best2 =>
      rcases picked with _ | ⟨a, _ | ⟨b, _ | ⟨c, _ | ⟨d, _⟩⟩⟩⟩
      · rfl
      · rfl
      · rfl
      · rfl
      · show (T.point best).add (((((T.point a).add (T.point b)).sub (T.point c)).sub
          (T.point d)).scale f) = _
        simp only [← T.blend_one best, ← T.blend_one a, ← T.blend_one b, ← T.blend_one c,
          ← T.blend_one d, T.blend_sub, T.blend_scale, T.blend_add]
        exact T.blend_of_eq_one (by ring) _
  | randToBest1 =>
      rcases picked with _ | ⟨a, _ | ⟨b, _ | ⟨c, _⟩⟩⟩
      · rfl
      · rfl
      · rfl
      · show (T.point a).add (((((T.point best).sub (T.point a)).add (T.point b)).sub
          (T.point c)).scale f) = _
        simp only [← T.blend_one best, ← T.blend_one a, ← T.blend_one b, ← T.blend_one c,
          T.blend_sub, T.blend_scale, T.blend_add]
        exact T.blend_of_eq_one (by ring) _

/-! ## Crossover -/

namespace Crossover

theorem binomialFrom_zipWith {axes : List Axis} {target mutant : Point Rat}
    (ht : target.length = axes.length) (hm : mutant.length = axes.length) (always : Nat)
    (rate : Float) (i : Nat) (g : γ) :
    binomialFrom always rate i (List.zipWith Axis.apply axes target)
        (List.zipWith Axis.apply axes mutant) g =
      (List.zipWith Axis.apply axes (binomialFrom always rate i target mutant g).1,
        (binomialFrom always rate i target mutant g).2) := by
  induction axes generalizing target mutant i g with
  | nil =>
      rw [List.eq_nil_of_length_eq_zero ht]
      rfl
  | cons a axes ih =>
      cases target with
      | nil => cases ht
      | cons t target =>
          cases mutant with
          | nil => cases hm
          | cons m mutant =>
              simp only [List.zipWith_cons_cons, binomialFrom]
              split
              · simp only [ih (Nat.succ.inj ht) (Nat.succ.inj hm), List.zipWith_cons_cons]
              · simp only [ih (Nat.succ.inj ht) (Nat.succ.inj hm), List.zipWith_cons_cons]
                split <;> rfl

/-- Choosing between changed coordinates is choosing and changing. -/
theorem choose_zipWith (axes : List Axis) (chosen : List Bool) (target mutant : Point Rat) :
    List.zipWith (fun (takes : Bool) (p : Rat × Rat) => if takes then p.2 else p.1) chosen
        ((List.zipWith Axis.apply axes target).zip (List.zipWith Axis.apply axes mutant)) =
      List.zipWith Axis.apply axes
        (List.zipWith (fun (takes : Bool) (p : Rat × Rat) => if takes then p.2 else p.1) chosen
          (target.zip mutant)) := by
  induction axes generalizing chosen target mutant with
  | nil =>
      rw [List.zipWith_nil_left, List.zip_nil_left, List.zipWith_nil_right, List.zipWith_nil_left]
  | cons a axes ih =>
      cases chosen with
      | nil => rfl
      | cons takes chosen =>
          cases target with
          | nil => rfl
          | cons t target =>
              cases mutant with
              | nil => rfl
              | cons m mutant =>
                  simp only [List.zipWith_cons_cons, List.zip_cons_cons, ih]
                  cases takes <;> rfl

/-- **The trial between changed points is the changed trial.** -/
theorem trial_point (c : Crossover) (rate : Float) {target mutant : Point Rat}
    (ht : target.length = T.dim) (hm : mutant.length = T.dim) (g : γ) :
    c.trial rate (T.point target) (T.point mutant) g =
      (T.point (c.trial rate target mutant g).1, (c.trial rate target mutant g).2) := by
  have length : (T.point target).length = target.length := (T.length_point ht).trans ht.symm
  cases c with
  | binomial =>
      show binomialTrial rate _ _ g = (T.point (binomialTrial rate target mutant g).1, _)
      simp only [binomialTrial, length]
      exact binomialFrom_zipWith ht hm _ rate 0 _
  | exponential =>
      show exponentialTrial rate _ _ g = (T.point (exponentialTrial rate target mutant g).1, _)
      simp only [exponentialTrial, length]
      exact congrArg (Prod.mk · _) (choose_zipWith T.axes _ target mutant)

end Crossover

/-! ## Differential evolution -/

namespace Differential

variable {p : Population Rat} {es : List Float} {target : Nat}

theorem trial_population (d : Differential Rat) (table : p.Table T.dim) (htarget : target < p.size)
    (hes : es.length = p.size) (g : γ) :
    d.trial (T.population p) es target g =
      (T.point (d.trial p es target g).1, (d.trial p es target g).2) := by
  have hcurrent : (p.row target).length = T.dim := table.length_row htarget
  have hmutant : (d.mutant p es target g).length = T.dim := length_mutant table htarget hes
  unfold mutant picked at hmutant
  have rows (is : List Nat) : is.map (T.population p).row = (is.map p.row).map T.point := by
    rw [List.map_map]
    exact congrArg (List.map · is) (funext (T.row_population p))
  simp only [trial, T.size_population, T.row_population, rows, Formula.mutant_point,
    Crossover.trial_point T d.variant.crossover d.rate hcurrent hmutant]

/-- The check of a changed population is the check of the population. -/
theorem check_population (d : Differential Rat) (table : p.Table T.dim) :
    d.check (T.population p) es target = d.check p es target := by
  have nonempty (htarget : target < p.size) :
      ((T.population p).row target).isEmpty = (p.row target).isEmpty := by
    have hl := table.length_row htarget
    have same : (T.point (p.row target)).length = (p.row target).length :=
      (T.length_point hl).trans hl.symm
    rw [T.row_population, Bool.eq_iff_iff, List.isEmpty_iff_length_eq_zero,
      List.isEmpty_iff_length_eq_zero, same]
  unfold check
  rw [T.size_population]
  by_cases htarget : p.size ≤ target
  · simp only [if_pos htarget]
  · simp only [if_neg htarget, nonempty (Nat.lt_of_not_le htarget)]

/-- **The trial of a changed population is the changed trial**, or both are refused for the
same reason. -/
theorem generate_population (d : Differential Rat) (table : p.Table T.dim) (g : γ) :
    d.generate (T.population p) es target g =
      (d.generate p es target g).map fun r => (T.point r.1, r.2) := by
  unfold generate
  rw [check_population T d table]
  cases hcheck : d.check p es target with
  | error e => rfl
  | ok u =>
      obtain ⟨htarget, hes⟩ := of_check hcheck
      simp only [bind, Except.bind, trial_population T d table htarget hes]
      rfl

end Differential
end BoxSearch

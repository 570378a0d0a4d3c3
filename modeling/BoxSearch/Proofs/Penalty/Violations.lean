import BoxSearch.Constraint.Penalty
import BoxSearch.Proofs.Energy.Order
import Mathlib.Algebra.Order.BigOperators.Group.List
import Mathlib.Algebra.Order.Ring.Rat
import Mathlib.Tactic.Linarith
import Mathlib.Tactic.Ring

/-!
# What a penalty adds

However penalties are nested, what counts are the single constraints in them, the clauses: the
inequalities, the equalities and the rows of the linear systems.  In exact arithmetic a penalty
adds the weighted squared violations of its clauses to the energy.

* `Penalty.clauses` — the clauses of a penalty;
* `Clause.cost` — the weighted squared violation of a clause, and `Clause.cost_pos_iff` — when it
  is positive;
* `LinearSystem.penalize_eq`, `Penalty.penalize_eq` — what is added by a linear system and by a
  penalty;
* `Penalty.penalize_of_satisfied` — where all clauses are satisfied nothing is added, in machine
  arithmetic as well.
-/

namespace BoxSearch

theorem Scalar.zero_eq : (Scalar.zero : Rat) = 0 := rfl

/-! ## Clauses -/

/-- A single constraint behind a penalty. -/
inductive Clause (α : Type) where
  /-- a function that may not be positive -/
  | inequality (g : ConstraintFn α) (weight : α)
  /-- a function that must be zero -/
  | equality (h : ConstraintFn α) (weight : α)
  /-- a row of a linear system -/
  | row (r : LinearRow α)

namespace Penalty

variable {α : Type}

mutual

/-- The clauses of a penalty, in order. -/
def clauses : Penalty α → List (Clause α)
  | .inequality g weight => [.inequality g weight]
  | .equality h weight => [.equality h weight]
  | .linear system => system.rows.map .row
  | .set members => clausesAll members

/-- The clauses of a list of penalties. -/
def clausesAll : List (Penalty α) → List (Clause α)
  | [] => []
  | p :: members => clauses p ++ clausesAll members

end

end Penalty

namespace Clause

variable {α : Type} [Scalar α]

/-- How much a violation counts. -/
def weight : Clause α → α
  | .inequality _ weight => weight
  | .equality _ weight => weight
  | .row r => r.weight

/-- The function of the clause has a value at a point. -/
def Defined (x : Point α) : Clause α → Prop
  | .inequality g _ => ∃ v, g x = .ok v
  | .equality h _ => ∃ v, h x = .ok v
  | .row _ => True

/-- The clause holds at a point. -/
def Satisfied (x : Point α) : Clause α → Prop
  | .inequality g _ => ∃ v, g x = .ok v ∧ v ≤ Scalar.zero
  | .equality h _ => ∃ v, h x = .ok v ∧ (v == Scalar.zero) = true
  | .row r => r.lower ≤ r.value x ∧ r.value x ≤ r.upper

/-- The value of a constraint function at a point; where it has none this is zero and says
nothing. -/
def valueAt (g : ConstraintFn α) (x : Point α) : α := (g x).toOption.getD Scalar.zero

theorem valueAt_of_ok {g : ConstraintFn α} {x : Point α} {v : α} (h : g x = .ok v) :
    valueAt g x = v := by
  simp [valueAt, h, Except.toOption]

/-! ## Costs -/

/-- The squared violation of a clause; a row has one at either end. -/
def excess (x : Point Rat) : Clause Rat → Rat
  | .inequality g _ => max (valueAt g x) 0 ^ 2
  | .equality h _ => valueAt h x ^ 2
  | .row r => max (r.lower - (List.zipWith (· * ·) r.coefficients x).sum) 0 ^ 2 +
      max ((List.zipWith (· * ·) r.coefficients x).sum - r.upper) 0 ^ 2

/-- The weighted squared violation of a clause. -/
def cost (x : Point Rat) (c : Clause Rat) : Rat := c.weight * c.excess x

variable {c : Clause Rat} {x : Point Rat}

theorem value_eq (r : LinearRow Rat) (x : Point Rat) :
    r.value x = (List.zipWith (· * ·) r.coefficients x).sum := by
  unfold LinearRow.value Scalar.sum
  rw [Scalar.zero_eq, neg_zero]
  exact List.sum_eq_foldl.symm

theorem beq_zero_iff {v : Rat} : (v == Scalar.zero) = true ↔ v = 0 := beq_iff_eq

theorem excess_nonneg (c : Clause Rat) : 0 ≤ c.excess x := by
  cases c with
  | inequality g weight => exact sq_nonneg _
  | equality h weight => exact sq_nonneg _
  | row r => exact add_nonneg (sq_nonneg _) (sq_nonneg _)

/-- Nothing is violated exactly where the clause holds. -/
theorem excess_eq_zero_iff (defined : c.Defined x) : c.excess x = 0 ↔ c.Satisfied x := by
  have side (v : Rat) : max v 0 ^ 2 = 0 ↔ v ≤ 0 := by
    rw [sq_eq_zero_iff, max_eq_right_iff]
  cases c with
  | inequality g weight =>
      obtain ⟨v, hv⟩ := defined
      rw [excess, valueAt_of_ok hv, side]
      constructor
      · intro kept
        exact ⟨v, hv, kept⟩
      · rintro ⟨v', hv', kept⟩
        cases hv.symm.trans hv'
        exact kept
  | equality h weight =>
      obtain ⟨v, hv⟩ := defined
      rw [excess, valueAt_of_ok hv, sq_eq_zero_iff]
      constructor
      · intro zero
        exact ⟨v, hv, beq_zero_iff.2 zero⟩
      · rintro ⟨v', hv', zero⟩
        cases hv.symm.trans hv'
        exact beq_zero_iff.1 zero
  | row r =>
      rw [excess, add_eq_zero_iff_of_nonneg (sq_nonneg _) (sq_nonneg _), side, side, sub_nonpos,
        sub_nonpos, ← value_eq]
      exact Iff.rfl

theorem cost_nonneg (h : 0 ≤ c.weight) : 0 ≤ c.cost x := mul_nonneg h c.excess_nonneg

/-- **A clause costs something exactly if it counts and is violated.** -/
theorem cost_pos_iff (h : 0 ≤ c.weight) (defined : c.Defined x) :
    0 < c.cost x ↔ 0 < c.weight ∧ ¬ c.Satisfied x := by
  rw [← excess_eq_zero_iff defined]
  constructor
  · intro positive
    obtain ⟨counts, violated⟩ := mul_ne_zero_iff.1 positive.ne'
    exact ⟨h.lt_of_ne' counts, violated⟩
  · rintro ⟨counts, violated⟩
    exact mul_pos counts (c.excess_nonneg.lt_of_ne' violated)

theorem costs_nonneg {cs : List (Clause Rat)} (h : ∀ c ∈ cs, 0 ≤ c.weight) :
    ∀ e ∈ cs.map (cost x), 0 ≤ e := by
  intro e he
  obtain ⟨c, hc, rfl⟩ := List.mem_map.1 he
  exact cost_nonneg (h c hc)

/-- Clauses that do not count negatively cost something together exactly if one of them does. -/
theorem sum_cost_pos_iff {cs : List (Clause Rat)} (h : ∀ c ∈ cs, 0 ≤ c.weight) :
    0 < (cs.map (cost x)).sum ↔ ∃ c ∈ cs, 0 < c.cost x := by
  have nonneg := costs_nonneg (x := x) h
  constructor
  · intro positive
    by_contra free
    have none : ∀ e ∈ cs.map (cost x), e = 0 := by
      intro e he
      obtain ⟨c, hc, rfl⟩ := List.mem_map.1 he
      by_contra costs
      exact free ⟨c, hc, (nonneg _ he).lt_of_ne' costs⟩
    rw [List.sum_eq_zero none] at positive
    exact lt_irrefl _ positive
  · rintro ⟨c, hc, positive⟩
    exact positive.trans_le (List.single_le_sum nonneg _ (List.mem_map_of_mem hc))

end Clause

/-! ## Linear systems -/

namespace LinearRow

variable {r : LinearRow Rat} {x : Point Rat}

/-- A row adds its cost. -/
theorem addTo_eq (p : Rat) : r.addTo x p = p + (Clause.row r).cost x := by
  have excess (a b : Rat) : max (a - b) 0 = if b < a then a - b else 0 := by
    split
    · exact max_eq_left (by linarith)
    · exact max_eq_right (by linarith)
  simp only [Clause.cost, Clause.weight, Clause.excess, excess, ← Clause.value_eq]
  unfold addTo
  by_cases below : r.value x < r.lower <;> by_cases above : r.upper < r.value x
  all_goals
    simp only [below, above, if_true, if_false]
    ring

end LinearRow

namespace LinearSystem

variable {s : LinearSystem Rat} {x : Point Rat}

/-- The rows of a system add up. -/
theorem violation_eq :
    s.violation x = ((s.rows.map Clause.row).map (Clause.cost x)).sum := by
  have sums (rows : List (LinearRow Rat)) (p : Rat) :
      rows.foldl (fun p r => r.addTo x p) p =
        p + ((rows.map Clause.row).map (Clause.cost x)).sum := by
    induction rows generalizing p with
    | nil => simp
    | cons r rows ih =>
        rw [List.foldl_cons, ih, LinearRow.addTo_eq]
        simp [add_assoc]
  unfold violation
  rw [sums, Scalar.zero_eq, zero_add]

/-- A system whose violations do not count negatively adds them. -/
theorem penalize_eq (nonneg : ∀ r ∈ s.rows, 0 ≤ r.weight) (f : Rat) :
    s.penalize x f = f + ((s.rows.map Clause.row).map (Clause.cost x)).sum := by
  have total : 0 ≤ ((s.rows.map Clause.row).map (Clause.cost x)).sum := by
    apply List.sum_nonneg
    apply Clause.costs_nonneg
    intro c hc
    obtain ⟨r, hr, rfl⟩ := List.mem_map.1 hc
    exact nonneg r hr
  rw [← violation_eq] at total ⊢
  unfold penalize
  by_cases positive : Scalar.zero < s.violation x
  · exact if_pos positive
  · have none : s.violation x = 0 := le_antisymm (not_lt.1 positive) total
    rw [if_neg positive, none, add_zero]

end LinearSystem

/-! ## Penalties -/

namespace Penalty

section

variable {x : Point Rat}

mutual

/-- **A penalty adds the costs of its clauses**, where they have values and do not count
negatively. -/
theorem penalize_eq : ∀ p : Penalty Rat, (∀ c ∈ p.clauses, 0 ≤ c.weight) →
    (∀ c ∈ p.clauses, c.Defined x) →
    ∀ f, p.penalize x f = .ok (f + (p.clauses.map (Clause.cost x)).sum)
  | .inequality g weight, _, defined, f => by
      obtain ⟨v, hv⟩ := defined _ (List.mem_singleton_self _)
      simp only [penalize, clauses, hv, Except.map, List.map_singleton, List.sum_singleton,
        Clause.cost, Clause.weight, Clause.excess, Clause.valueAt_of_ok hv]
      congr 1
      by_cases positive : (Scalar.zero : Rat) < v
      · have violated : max v 0 = v := max_eq_left (le_of_lt positive)
        rw [if_pos positive, violated]
        ring
      · have kept : max v 0 = 0 := max_eq_right (not_lt.1 positive)
        rw [if_neg positive, kept]
        ring
  | .equality h weight, _, defined, f => by
      obtain ⟨v, hv⟩ := defined _ (List.mem_singleton_self _)
      simp only [penalize, clauses, hv, Except.map, List.map_singleton, List.sum_singleton,
        Clause.cost, Clause.weight, Clause.excess, Clause.valueAt_of_ok hv]
      congr 1
      by_cases zero : (v == Scalar.zero) = true
      · rw [if_pos zero, Clause.beq_zero_iff.1 zero]
        ring
      · rw [if_neg zero]
        ring
  | .linear system, nonneg, _, f => by
      refine congrArg Except.ok (LinearSystem.penalize_eq ?_ f)
      intro r hr
      exact nonneg (.row r) (List.mem_map_of_mem hr)
  | .set members, nonneg, defined, f => penalizeAll_eq members nonneg defined f

theorem penalizeAll_eq : ∀ ps : List (Penalty Rat), (∀ c ∈ clausesAll ps, 0 ≤ c.weight) →
    (∀ c ∈ clausesAll ps, c.Defined x) →
    ∀ f, penalizeAll ps x f = .ok (f + ((clausesAll ps).map (Clause.cost x)).sum)
  | [], _, _, f => by simp [penalizeAll, clausesAll]
  | p :: ps, nonneg, defined, f => by
      simp only [clausesAll, List.forall_mem_append] at nonneg defined
      rw [penalizeAll, penalize_eq p nonneg.1 defined.1]
      simp only [penalizeAll_eq ps nonneg.2 defined.2, clausesAll, List.map_append,
        List.sum_append, add_assoc]

end

end

/-! ### Feasible points -/

section

variable {x : Point Float}

/-- In machine arithmetic, too, a satisfied row adds nothing. -/
theorem addTo_of_satisfied {r : LinearRow Float} (h : (Clause.row r).Satisfied x) (p : Float) :
    r.addTo x p = p := by
  have below : ¬ r.value x < r.lower := fun lt => Double.not_le_of_lt lt h.1
  have above : ¬ r.upper < r.value x := fun lt => Double.not_le_of_lt lt h.2
  simp only [LinearRow.addTo, if_neg below, if_neg above]

theorem linear_of_satisfied {s : LinearSystem Float}
    (h : ∀ r ∈ s.rows, (Clause.row r).Satisfied x) (f : Float) : s.penalize x f = f := by
  have none : s.violation x = Scalar.zero := by
    unfold LinearSystem.violation
    generalize (Scalar.zero : Float) = p
    cases s with
    | mk width rows =>
        induction rows with
        | nil => rfl
        | cons r rows ih =>
            obtain ⟨first, others⟩ := List.forall_mem_cons.1 h
            rw [List.foldl_cons, addTo_of_satisfied first]
            exact ih others
  unfold LinearSystem.penalize
  rw [none]
  exact if_neg (Double.lt_irrefl _)

mutual

/-- **The energy of a feasible point is returned as it is**, whatever it is. -/
theorem penalize_of_satisfied : ∀ p : Penalty Float, (∀ c ∈ p.clauses, c.Satisfied x) →
    ∀ f, p.penalize x f = .ok f
  | .inequality g weight, h, f => by
      obtain ⟨v, hv, kept⟩ := h _ (List.mem_singleton_self _)
      have holds : ¬ Scalar.zero < v := fun lt => Double.not_le_of_lt lt kept
      simp only [penalize, hv, Except.map, if_neg holds]
  | .equality g weight, h, f => by
      obtain ⟨v, hv, zero⟩ := h _ (List.mem_singleton_self _)
      simp only [penalize, hv, Except.map, if_pos zero]
  | .linear system, h, f => by
      refine congrArg Except.ok (linear_of_satisfied ?_ f)
      intro r hr
      exact h (.row r) (List.mem_map_of_mem hr)
  | .set members, h, f => penalizeAll_of_satisfied members h f

theorem penalizeAll_of_satisfied : ∀ ps : List (Penalty Float),
    (∀ c ∈ clausesAll ps, c.Satisfied x) → ∀ f, penalizeAll ps x f = .ok f
  | [], _, f => rfl
  | p :: ps, h, f => by
      obtain ⟨first, others⟩ := List.forall_mem_append.1 h
      rw [penalizeAll, penalize_of_satisfied p first]
      exact penalizeAll_of_satisfied ps others f

end

end

/-! ### Order and nesting -/

/-- The members of a set in another order have the same clauses. -/
theorem clausesAll_perm {α : Type} {ps qs : List (Penalty α)} (h : ps.Perm qs) :
    (clausesAll ps).Perm (clausesAll qs) := by
  induction h with
  | nil => exact List.Perm.refl _
  | cons p _ ih => exact ih.append_left _
  | swap p q ps =>
      simp only [clausesAll, ← List.append_assoc]
      exact List.perm_append_comm.append_right _
  | trans _ _ ih ih' => exact ih.trans ih'

/-- **A penalty adds exactly the weighted squared violations.**  Let the clauses of a penalty,
however they are nested, have values at a point and not count negatively.  Then in exact arithmetic
the energy of the point becomes the sum of its own energy and the costs of the clauses.  It does
not go down, and goes up exactly if a clause that counts is violated; and it does not depend on the
order of the clauses or their nesting.  Where all clauses hold the energy is returned as it is, in
machine arithmetic as well, even if it is infinite or no number. -/
theorem penalize_accounted {p : Penalty Rat} {x : Point Rat}
    (nonneg : ∀ c ∈ p.clauses, 0 ≤ c.weight) (defined : ∀ c ∈ p.clauses, c.Defined x) (f : Rat) :
    ∃ e, p.penalize x f = .ok e ∧ e = f + (p.clauses.map (Clause.cost x)).sum ∧ f ≤ e ∧
      (f < e ↔ ∃ c ∈ p.clauses, 0 < c.weight ∧ ¬ c.Satisfied x) ∧
      (∀ q : Penalty Rat, q.clauses.Perm p.clauses → q.penalize x f = .ok e) ∧
      (∀ members others, p = .set members → others.Perm members →
        (Penalty.set others).penalize x f = .ok e) ∧
      ((∀ c ∈ p.clauses, c.Satisfied x) → e = f) ∧
      ∀ (q : Penalty Float) (y : Point Float), (∀ c ∈ q.clauses, c.Satisfied y) →
        ∀ g, q.penalize y g = .ok g := by
  have above : f < f + (p.clauses.map (Clause.cost x)).sum ↔
      ∃ c ∈ p.clauses, 0 < c.weight ∧ ¬ c.Satisfied x := by
    rw [lt_add_iff_pos_right, Clause.sum_cost_pos_iff nonneg]
    constructor
    · rintro ⟨c, hc, costs⟩
      exact ⟨c, hc, (Clause.cost_pos_iff (nonneg c hc) (defined c hc)).1 costs⟩
    · rintro ⟨c, hc, violated⟩
      exact ⟨c, hc, (Clause.cost_pos_iff (nonneg c hc) (defined c hc)).2 violated⟩
  have regrouped (q : Penalty Rat) (same : q.clauses.Perm p.clauses) :
      q.penalize x f = .ok (f + (p.clauses.map (Clause.cost x)).sum) := by
    rw [penalize_eq q (fun c hc => nonneg c (same.subset hc))
      (fun c hc => defined c (same.subset hc)), (same.map _).sum_eq]
  have least : f ≤ f + (p.clauses.map (Clause.cost x)).sum :=
    le_add_of_nonneg_right (List.sum_nonneg (Clause.costs_nonneg nonneg))
  refine ⟨_, penalize_eq p nonneg defined f, rfl, least, above, regrouped, ?_, ?_,
    fun q y => q.penalize_of_satisfied⟩
  · rintro members others rfl same
    exact regrouped _ (clausesAll_perm same)
  · intro holds
    refine le_antisymm (not_lt.1 fun lt => ?_) least
    obtain ⟨c, hc, _, violated⟩ := above.1 lt
    exact violated (holds c hc)

/-! ### A nest of penalties -/

section

variable {α : Type} [Scalar α]

/-- Two coordinates of a point. -/
def pair (x : Point α) : Except Fault (α × α) :=
  match x with
  | [a, b] => .ok (a, b)
  | _ => .error (.indexOutOfRange 1 x.length)

/-- Below a line, on a diagonal, and between the ends of a row. -/
def nest : Penalty α :=
  .set [.set [.inequality (fun x => (pair x).map fun p => p.1 + p.2 - Scalar.ofNat 1) (Scalar.ofNat 2),
      .set []],
    .equality (fun x => (pair x).map fun p => p.1 - p.2) (Scalar.ofNat 3),
    .linear ⟨2, [⟨[Scalar.ofNat 1, Scalar.ofNat 0], -Scalar.ofNat 1, Scalar.ofNat 1,
      Scalar.ofNat 10⟩]⟩]

end

/-- At a point where all three are violated the costs are 2, 12 and 10; at one on the diagonal
even an energy that is no number is returned. -/
theorem penalize_accounted_nest :
    (nest : Penalty Rat).penalize [2, 0] (7 / 2) = .ok (7 / 2 + (2 + 12 + 10)) ∧
      (7 / 2 : Rat) < 7 / 2 + (2 + 12 + 10) ∧
      (nest : Penalty Float).penalize [0.25, 0.25] Double.nan = .ok Double.nan := by
  have costs : (nest : Penalty Rat).clauses.map (Clause.cost [2, 0]) = [2, 12, 10] := by
    decide +kernel
  have counts : ∀ c ∈ (nest : Penalty Rat).clauses, 0 ≤ c.weight := by decide +kernel
  have defined : ∀ c ∈ (nest : Penalty Rat).clauses, c.Defined [2, 0] :=
    List.forall_mem_cons.2 ⟨⟨_, rfl⟩, List.forall_mem_cons.2 ⟨⟨_, rfl⟩,
      List.forall_mem_cons.2 ⟨trivial, nofun⟩⟩⟩
  have satisfied : ∀ c ∈ (nest : Penalty Float).clauses, c.Satisfied [0.25, 0.25] :=
    List.forall_mem_cons.2 ⟨⟨_, rfl, by decide +kernel⟩, List.forall_mem_cons.2
      ⟨⟨_, rfl, by decide +kernel⟩, List.forall_mem_cons.2 ⟨by
        constructor <;> decide +kernel, nofun⟩⟩⟩
  obtain ⟨e, value, total, _, above, _, _, _, feasible⟩ := penalize_accounted counts defined (7 / 2)
  rw [costs] at total
  have sum : e = 7 / 2 + (2 + 12 + 10) := total.trans (by norm_num)
  refine ⟨sum ▸ value, sum ▸ above.2 ?_, feasible _ _ satisfied _⟩
  refine ⟨_, List.mem_cons_self, by decide +kernel, ?_⟩
  rintro ⟨v, hv, kept⟩
  cases hv
  revert kept
  decide +kernel

end Penalty

end BoxSearch

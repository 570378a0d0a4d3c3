import BoxSearch.Proofs.Penalty.Violations

/-!
# Linear systems on top of each other

A linear system is written down as four arrays: a matrix, the least and the largest values of its
rows, and their weights.  Systems with the same number of columns can be stacked, and then each of
the four arrays is that of the upper system followed by that of the lower one.  Kept apart, four
arrays can get out of step.  The rows of a system carry their ends and weights with them, and this
file shows that they are what the four arrays say, however a system was put together.

* `Built` — a system was put together from four arrays by stacking, in any number of calls, some of
  which may have been refused;
* `Built.arrays_eq`, `Built.aligned` — the rows of the system are those of its arrays, and these
  are of one length;
* `stack_penalizes_both` — to be penalised by a stack is to be penalised by both systems.
-/

namespace BoxSearch

/-! ## Four arrays -/

/-- What a linear system is made of. -/
structure Arrays (α : Type) where
  /-- the coefficients -/
  matrix : Population α
  /-- the least values -/
  lower : List α
  /-- the largest values -/
  upper : List α
  /-- the weights -/
  weights : List α

namespace Arrays

variable {α : Type}

/-- The arrays of a system in which all rows have the same weight. -/
def uniform (matrix : Population α) (lower upper : List α) (weight : α) : Arrays α :=
  ⟨matrix, lower, upper, List.replicate matrix.size weight⟩

/-- Each array with the other one behind it.  Arrays of another width are refused, and then all
four stay as they are. -/
def stack (a b : Arrays α) : Arrays α :=
  if b.matrix.width = a.matrix.width then
    ⟨⟨a.matrix.width, a.matrix.rows ++ b.matrix.rows⟩, a.lower ++ b.lower, a.upper ++ b.upper,
      a.weights ++ b.weights⟩
  else a

/-- The arrays have one entry for each row, and the rows one coefficient for each column. -/
structure Aligned (a : Arrays α) : Prop where
  /-- the least values -/
  lower : a.lower.length = a.matrix.size
  /-- the largest values -/
  upper : a.upper.length = a.matrix.size
  /-- the weights -/
  weights : a.weights.length = a.matrix.size
  /-- the coefficients -/
  columns : ∀ row ∈ a.matrix.rows, row.length = a.matrix.width

theorem Aligned.stack {a b : Arrays α} (ha : a.Aligned) (hb : b.Aligned) :
    (a.stack b).Aligned := by
  unfold Arrays.stack
  split
  · next same =>
    constructor
    · simp [Population.size, ha.lower, hb.lower]
    · simp [Population.size, ha.upper, hb.upper]
    · simp [Population.size, ha.weights, hb.weights]
    · intro row hrow
      rcases List.mem_append.1 hrow with hrow | hrow
      · exact ha.columns row hrow
      · exact (hb.columns row hrow).trans same
  · exact ha

end Arrays

namespace LinearSystem

variable {α : Type}

/-- The arrays that the rows of a system make up. -/
def arrays (s : LinearSystem α) : Arrays α :=
  ⟨⟨s.width, s.rows.map (·.coefficients)⟩, s.rows.map (·.lower), s.rows.map (·.upper),
    s.rows.map (·.weight)⟩

/-- A system after another one was to be stacked on it; if that was refused it stays as it is. -/
def stacked (s t : LinearSystem α) : LinearSystem α :=
  match s.stack t with
  | .ok u => u
  | .error _ => s

/-- A system that was put together from four arrays. -/
inductive Built : LinearSystem α → Arrays α → Prop
  /-- all rows got the same weight -/
  | made {matrix : Population α} {lower upper : List α} {weight : α} {s : LinearSystem α}
      (columns : ∀ row ∈ matrix.rows, row.length = matrix.width)
      (h : make matrix lower upper weight = .ok s) : Built s (.uniform matrix lower upper weight)
  /-- another system was stacked on it, or was to be -/
  | stacked {s t : LinearSystem α} {a b : Arrays α} (hs : Built s a) (ht : Built t b) :
      Built (s.stacked t) (a.stack b)

variable {s t : LinearSystem α} {a b : Arrays α}

theorem stack_of_width (h : t.width = s.width) :
    s.stack t = .ok { s with rows := s.rows ++ t.rows } := if_pos h

theorem stack_of_width_ne (h : t.width ≠ s.width) :
    s.stack t = .error (.dimensionMismatch "linear constraint matrix" s.width t.width) := if_neg h

/-- Rows that are put together from arrays of one length can be taken apart again. -/
theorem arrays_zipWith (width : Nat) {rows : List (Point α)} {lower upper : List α} (weight : α)
    (hl : lower.length = rows.length) (hu : upper.length = rows.length) :
    arrays ⟨width, List.zipWith (fun row (e : α × α) => ⟨row, e.1, e.2, weight⟩) rows
      (lower.zip upper)⟩ = .uniform ⟨width, rows⟩ lower upper weight := by
  simp only [arrays, Arrays.uniform, Population.size, Arrays.mk.injEq, Population.mk.injEq,
    true_and]
  induction rows generalizing lower upper with
  | nil => simp_all
  | cons row rows ih =>
      cases lower with
      | nil => cases hl
      | cons l lower =>
          cases upper with
          | nil => cases hu
          | cons u upper =>
              obtain ⟨hr, hl, hu, hw⟩ := ih (Nat.succ.inj hl) (Nat.succ.inj hu)
              simp [hr, hl, hu, hw, List.replicate_succ]

/-- A system is made from arrays of the right lengths only. -/
theorem of_make_eq_ok {matrix : Population α} {lower upper : List α} {weight : α}
    (h : make matrix lower upper weight = .ok s) :
    lower.length = matrix.size ∧ upper.length = matrix.size ∧
      s.arrays = .uniform matrix lower upper weight := by
  unfold make at h
  split at h
  · cases h
  next hl =>
    split at h
    · cases h
    next hu =>
      cases h
      rw [not_not] at hl hu
      exact ⟨hl, hu, arrays_zipWith matrix.width weight hl hu⟩

theorem arrays_stacked : (s.stacked t).arrays = s.arrays.stack t.arrays := by
  unfold stacked Arrays.stack
  by_cases h : t.width = s.width
  · rw [stack_of_width h]
    simp [arrays, h]
  · rw [stack_of_width_ne h]
    exact (if_neg h).symm

/-- **The rows of a system are those of its arrays.** -/
theorem Built.arrays_eq (h : Built s a) : s.arrays = a := by
  induction h with
  | made _ h => exact (of_make_eq_ok h).2.2
  | stacked _ _ ih ih' => rw [arrays_stacked, ih, ih']

/-- **The arrays of a system stay aligned.** -/
theorem Built.aligned (h : Built s a) : a.Aligned := by
  induction h with
  | made columns h =>
      obtain ⟨hl, hu, _⟩ := of_make_eq_ok h
      exact ⟨hl, hu, List.length_replicate, columns⟩
  | stacked _ _ ih ih' => exact ih.stack ih'

theorem Built.width (h : Built s a) : s.width = a.matrix.width :=
  congrArg (·.matrix.width) h.arrays_eq

/-- The rows of a stack are penalised one system after the other. -/
theorem penalize_append {p q : LinearSystem Rat} (hp : ∀ r ∈ p.rows, 0 ≤ r.weight)
    (hq : ∀ r ∈ q.rows, 0 ≤ r.weight) (x : Point Rat) (f : Rat) :
    LinearSystem.penalize { p with rows := p.rows ++ q.rows } x f =
      q.penalize x (p.penalize x f) := by
  rw [penalize_eq hp, penalize_eq hq, penalize_eq]
  · simp only [List.map_append, List.sum_append, add_assoc]
  · exact List.forall_mem_append.2 ⟨hp, hq⟩

theorem stack_eq_ok_iff {u : LinearSystem α} :
    s.stack t = .ok u ↔ t.width = s.width ∧ u = { s with rows := s.rows ++ t.rows } := by
  by_cases h : t.width = s.width
  · rw [stack_of_width h]
    simp [h, eq_comm]
  · rw [stack_of_width_ne h]
    simp [h]

/-- Stacking is associative. -/
theorem stack_assoc {r u : LinearSystem α} :
    (∃ v, s.stack t = .ok v ∧ v.stack r = .ok u) ↔ ∃ v, t.stack r = .ok v ∧ s.stack v = .ok u := by
  simp only [stack_eq_ok_iff]
  constructor
  · rintro ⟨_, ⟨first, rfl⟩, second, rfl⟩
    refine ⟨_, ⟨second.trans first.symm, rfl⟩, first, ?_⟩
    simp
  · rintro ⟨_, ⟨second, rfl⟩, first, rfl⟩
    refine ⟨_, ⟨first, rfl⟩, second.trans first, ?_⟩
    simp

/-- **To be penalised by a stack is to be penalised by both systems.**  Put two linear systems
together from arrays.  If they have the same number of columns, then stacking succeeds, every row
of the stack has the coefficients, ends and weight that stand at its place in the four arrays laid
end to end, which are of one length, and in exact arithmetic the stack adds to the energy of a
point what both systems add, one after the other.  If they have not, then stacking is refused, and
the upper system has the arrays that it had.  Whether a third system is stacked before or after
does not matter. -/
theorem stack_penalizes_both {p q : LinearSystem Rat} {a b : Arrays Rat} (hp : Built p a)
    (hq : Built q b) :
    (a.matrix.width = b.matrix.width → ∃ s, p.stack q = .ok s ∧ Built s (a.stack b) ∧
      s.arrays = ⟨⟨a.matrix.width, a.matrix.rows ++ b.matrix.rows⟩, a.lower ++ b.lower,
        a.upper ++ b.upper, a.weights ++ b.weights⟩ ∧ s.arrays.Aligned ∧
      ((∀ w ∈ a.weights, 0 ≤ w) → (∀ w ∈ b.weights, 0 ≤ w) →
        ∀ x f, s.penalize x f = q.penalize x (p.penalize x f))) ∧
    (a.matrix.width ≠ b.matrix.width → p.stack q = .error (.dimensionMismatch
        "linear constraint matrix" a.matrix.width b.matrix.width) ∧ (p.stacked q).arrays = a) ∧
    ∀ r s, (∃ t, p.stack q = .ok t ∧ t.stack r = .ok s) ↔
      ∃ t, q.stack r = .ok t ∧ p.stack t = .ok s := by
  have counted {s : LinearSystem Rat} {c : Arrays Rat} (h : Built s c)
      (nonneg : ∀ w ∈ c.weights, 0 ≤ w) : ∀ r ∈ s.rows, 0 ≤ r.weight := by
    intro r hr
    apply nonneg
    rw [← h.arrays_eq]
    exact List.mem_map_of_mem hr
  refine ⟨fun same => ?_, fun differ => ?_, fun r s => ?_⟩
  · have widths : q.width = p.width := by
      rw [hp.width, hq.width, same]
    have ok := stack_of_width widths
    have built := Built.stacked hp hq
    rw [stacked, ok] at built
    refine ⟨_, ok, built, ?_, ?_, ?_⟩
    · rw [built.arrays_eq, Arrays.stack, if_pos same.symm]
    · rw [built.arrays_eq]
      exact built.aligned
    · intro ha hb
      exact penalize_append (counted hp ha) (counted hq hb)
  · have widths : q.width ≠ p.width := by
      rw [hp.width, hq.width]
      exact differ.symm
    have refused := stack_of_width_ne widths
    constructor
    · rw [refused, hp.width, hq.width]
    · rw [stacked, refused]
      exact hp.arrays_eq
  · exact stack_assoc

/-! ### Two rows with weights of their own -/

/-- The sum of two coordinates lies between zero and one. -/
def sumRow : LinearSystem Rat := ⟨2, [⟨[1, 1], 0, 1, 5⟩]⟩

/-- The difference of two coordinates is at most one. -/
def differenceRow : LinearSystem Rat := ⟨2, [⟨[1, -1], -1, 1, 50⟩]⟩

theorem built_sumRow : Built sumRow (.uniform ⟨2, [[1, 1]]⟩ [0] [1] 5) :=
  .made (by decide) rfl

theorem built_differenceRow : Built differenceRow (.uniform ⟨2, [[1, -1]]⟩ [-1] [1] 50) :=
  .made (by decide) rfl

/-- Stacked they keep their weights: the first point violates only the sum, and the second one only
the difference. -/
theorem stack_penalizes_both_twoRows :
    ∃ s, sumRow.stack differenceRow = .ok s ∧ s.arrays.weights = [5, 50] ∧
      s.penalize [1, 1] 0 = 5 ∧ s.penalize [1, -1] 0 = 50 := by
  obtain ⟨same, _, _⟩ := stack_penalizes_both built_sumRow built_differenceRow
  obtain ⟨s, ok, _, arrays, _, both⟩ := same rfl
  have penalised := both (by decide +kernel) (by decide +kernel)
  refine ⟨s, ok, congrArg Arrays.weights arrays, ?_, ?_⟩
  · rw [penalised]
    decide +kernel
  · rw [penalised]
    decide +kernel

end LinearSystem

end BoxSearch

import BoxSearch.Error
import BoxSearch.Proofs.Strategy.Fitting
import Mathlib.Data.Nat.Factorial.Basic

/-!
# Picking stays in range

The indices of a shuffle are digits of drawn numbers, in a mixed radix whose bounds grow from
digit to digit.  That each of them is an index of the array it is used on rests on what is
left of the drawn number between two digits: it is below the product of the bounds that are
still to come (`IndexBatch.Fits`).

* `WordSource.below_lt` — an index drawn below a bound is below it;
* `IndexBatch.index_of_fits` — so is the next digit of a batch, and the batch stays in order;
* `Shuffle.walkChecked` and the checked draws beside it — the same walk with every access and
  every draw checked; `walkChecked_eq` and `distinctIndicesChecked_eq` say that no check fails;
* `Shuffle.length_distinctIndices`, `Shuffle.nodup_distinctIndices` and
  `Shuffle.ne_of_mem_distinctIndices` — as many members are picked as were asked for, all
  different, and none of them the excluded one.
-/

namespace BoxSearch

variable {γ : Type} [WordSource γ]

/-! ## Drawing below a bound -/

namespace WordSource

/-- **An index drawn below a bound is below it.**  The word stays below `2 ^ 32`, so the low
half of its product with the bound leaves no room for a carry where the high half is already
the last index. -/
theorem below_lt {n : Nat} (pos : 0 < n) (g : γ) : (below n g).1 < n := by
  have word (w : UInt32) : w.toNat * n + n ≤ UInt32.size * n := by
    rw [← Nat.succ_mul]
    exact Nat.mul_le_mul_right n w.toNat_lt
  have product := word (next g).1
  unfold below
  simp only [UInt32.size] at product ⊢
  generalize (next g).1.toNat * n = m at product
  split
  · split <;> omega
  · omega

/-- A draw below a bound, which has no answer below zero. -/
def belowChecked (n : Nat) (g : γ) : Except Fault (Nat × γ) :=
  if n = 0 then .error .emptyRange else .ok (below n g)

theorem belowChecked_eq {n : Nat} (pos : 0 < n) (g : γ) : belowChecked n g = .ok (below n g) :=
  if_neg pos.ne'

end WordSource

/-! ## Digits of a batch -/

namespace IndexBatch

/-- What is left of the drawn number is below the product of the bounds to come. -/
def Fits (b : IndexBatch) : Prop := b.left ≠ 0 → b.rest < (b.bound + 1).ascFactorial b.left

theorem fits_before (start : Nat) : (before start).Fits := by
  intro h
  unfold before at h ⊢
  by_cases first : start = 0
  · subst first
    decide
  · exact absurd (if_neg first) h

/-- The bounds of a batch are consecutive numbers, at least one of them. -/
theorem collect_eq (fuel first count : Nat) :
    ∃ more, collect fuel (first.ascFactorial count) (first + count) =
      (first.ascFactorial (count + more), first + count + more) := by
  induction fuel generalizing count with
  | zero => exact ⟨0, rfl⟩
  | succ fuel ih =>
      unfold collect
      split
      · obtain ⟨more, h⟩ := ih (count + 1)
        refine ⟨1 + more, ?_⟩
        rw [Nat.mul_comm, ← Nat.ascFactorial_succ, Nat.add_assoc, h]
        simp only [Nat.add_assoc]
      · exact ⟨0, rfl⟩

/-- A batch that is drawn anew holds at least one index, and a number below the product of as
many bounds. -/
theorem collect_bounds (bound : Nat) :
    ∃ count, collect 32 bound (bound + 1) =
      (bound.ascFactorial (count + 1), bound + (count + 1)) := by
  obtain ⟨more, h⟩ := collect_eq 32 bound 1
  refine ⟨more, ?_⟩
  rw [Nat.ascFactorial_succ, Nat.ascFactorial_zero, Nat.mul_one, Nat.add_zero] at h
  rw [h, Nat.add_comm more 1, Nat.add_assoc]

omit [WordSource γ] in
/-- Reading one digit off a number below the product of the bounds: the digit is below its
bound, and what is left is below the product of the others. -/
theorem digit {bound rest left : Nat} (more : left ≠ 0) (h : rest < bound.ascFactorial left)
    (g : γ) :
    let read := if left - 1 = 0 then (rest, (⟨bound, rest, 0⟩ : IndexBatch), g)
      else (rest % bound, ⟨bound, rest / bound, left - 1⟩, g)
    read.1 < bound ∧ read.2.1.bound = bound ∧ read.2.1.Fits := by
  obtain ⟨left, rfl⟩ := Nat.exists_eq_succ_of_ne_zero more
  have product : bound.ascFactorial (left + 1) = bound * (bound + 1).ascFactorial left := by
    rw [Nat.ascFactorial_succ, ← Nat.succ_ascFactorial]
  rw [Nat.succ_eq_add_one, product] at h
  have pos : 0 < bound := by
    by_contra none
    rw [Nat.eq_zero_of_not_pos none, Nat.zero_mul] at h
    exact Nat.not_lt_zero _ h
  intro read
  by_cases last : left = 0
  · subst last
    rw [Nat.ascFactorial_zero, Nat.mul_one] at h
    exact ⟨h, rfl, fun more => absurd rfl more⟩
  · have step : read = (rest % bound, ⟨bound, rest / bound, left⟩, g) := if_neg last
    rw [step]
    exact ⟨Nat.mod_lt _ pos, rfl, fun _ => Nat.div_lt_of_lt_mul h⟩

/-- **The next index is below the next bound**, and the batch stays in order. -/
theorem index_of_fits {b : IndexBatch} (fits : b.Fits) (g : γ) :
    (b.index g).1 < b.bound + 1 ∧ (b.index g).2.1.bound = b.bound + 1 ∧
      (b.index g).2.1.Fits := by
  unfold index
  by_cases empty : b.left = 0
  · obtain ⟨count, hc⟩ := collect_bounds (b.bound + 1)
    simp only [if_pos empty, hc, Nat.add_sub_cancel_left]
    exact digit (Nat.succ_ne_zero count)
      (WordSource.below_lt (Nat.ascFactorial_pos ..) g) _
  · simp only [if_neg empty]
    exact digit empty (fits empty) g

/-- The next index, with the draw of a new batch checked. -/
def indexChecked (b : IndexBatch) (g : γ) : Except Fault (Nat × IndexBatch × γ) :=
  if b.left = 0 then
    (WordSource.belowChecked (collect 32 (b.bound + 1) (b.bound + 2)).1 g).map fun _ => b.index g
  else .ok (b.index g)

theorem indexChecked_eq (b : IndexBatch) (g : γ) : b.indexChecked g = .ok (b.index g) := by
  unfold indexChecked
  split
  · obtain ⟨count, hc⟩ := collect_bounds (b.bound + 1)
    rw [hc, WordSource.belowChecked_eq (Nat.ascFactorial_pos ..)]
    rfl
  · rfl

end IndexBatch

/-! ## Walking and swapping -/

namespace Shuffle

variable {β : Type}

/-- Swaps two elements of an array that reaches as far as both. -/
def swapChecked (xs : Array β) (i j : Nat) : Except Fault (Array β) :=
  if xs.size ≤ i then .error (.indexOutOfRange i xs.size)
  else if xs.size ≤ j then .error (.indexOutOfRange j xs.size)
  else .ok (xs.swapIfInBounds i j)

/-- The walk of a shuffle with every draw and every swap checked. -/
def walkChecked : Nat → Nat → IndexBatch → Array β → γ → Except Fault (Array β × γ)
  | 0, _, _, xs, g => .ok (xs, g)
  | count + 1, i, b, xs, g => do
    let (j, b, g) ← b.indexChecked g
    let xs ← swapChecked xs i j
    walkChecked count (i + 1) b xs g

/-- **A walk inside the array swaps nothing outside of it**: at every place the index to swap
with is that place or one before it. -/
theorem walkChecked_eq (count i : Nat) {b : IndexBatch} {xs : Array β} (fits : b.Fits)
    (here : b.bound = i) (inside : i + count ≤ xs.size) (g : γ) :
    walkChecked count i b xs g = .ok (walk count i b xs g) := by
  induction count generalizing i b xs g with
  | zero => rfl
  | succ count ih =>
      obtain ⟨before, bound, fits'⟩ := IndexBatch.index_of_fits fits g
      have swapped : swapChecked xs i (b.index g).1 =
          .ok (xs.swapIfInBounds i (b.index g).1) := by
        unfold swapChecked
        rw [if_neg (by omega), if_neg (by omega)]
      have size : (xs.swapIfInBounds i (b.index g).1).size = xs.size := Array.size_swapIfInBounds
      simp only [walkChecked, walk, IndexBatch.indexChecked_eq, bind, Except.bind, swapped]
      exact ih (i + 1) fits' (by omega) (by omega) _

/-- Picked elements, with every draw and every swap checked. -/
def pickChecked (xs : List β) (k : Nat) (g : γ) : Except Fault (List β × γ) :=
  let start := xs.length - k
  (walkChecked (xs.length - start) start (IndexBatch.before start) xs.toArray g).map fun r =>
    (r.1.toList.drop start, r.2)

theorem pickChecked_eq (xs : List β) (k : Nat) (g : γ) :
    pickChecked xs k g = .ok (pick xs k g) := by
  have inside : xs.length - k + (xs.length - (xs.length - k)) ≤ xs.toArray.size := by
    rw [List.size_toArray]
    omega
  have walked := walkChecked_eq _ _ (IndexBatch.fits_before _) rfl inside g
  exact congrArg (Except.map fun r => (r.1.toList.drop (xs.length - k), r.2)) walked

/-- Distinct indices, with every draw and every swap checked. -/
def distinctIndicesChecked (excluded count size : Nat) (g : γ) : Except Fault (List Nat × γ) :=
  pickChecked ((List.range size).filter (· ≠ excluded)) count g

/-- **No check fails on the way to distinct indices.** -/
theorem distinctIndicesChecked_eq (excluded count size : Nat) (g : γ) :
    distinctIndicesChecked excluded count size g = .ok (distinctIndices excluded count size g) :=
  pickChecked_eq _ _ g

/-! ## What is picked -/

theorem length_pick {xs : List β} {k : Nat} (enough : k ≤ xs.length) (g : γ) :
    (pick xs k g).1.length = k := by
  have kept : (partialShuffle xs.toArray k g).1.toList.length = xs.length :=
    (perm_walk _ _ _ xs.toArray g).length_eq
  show ((partialShuffle xs.toArray k g).1.toList.drop (xs.length - k)).length = k
  rw [List.length_drop, kept]
  omega

theorem nodup_pick {xs : List β} (distinct : xs.Nodup) (k : Nat) (g : γ) :
    (pick xs k g).1.Nodup :=
  ((perm_walk _ _ _ xs.toArray g).nodup_iff.2 distinct).sublist (List.drop_sublist _ _)

variable {excluded count size : Nat}

/-- One index is left out of the pool that is picked from. -/
theorem length_pool (member : excluded < size) :
    ((List.range size).filter (· ≠ excluded)).length = size - 1 := by
  have erased : (List.range size).filter (· ≠ excluded) = (List.range size).erase excluded := by
    rw [List.nodup_range.erase_eq_filter]
    exact List.filter_congr fun i _ => decide_not.trans (congrArg (!·) (beq_eq_decide ..).symm)
  rw [erased, List.length_erase_of_mem (List.mem_range.2 member), List.length_range]

theorem length_distinctIndices (member : excluded < size) (enough : count < size) (g : γ) :
    (distinctIndices excluded count size g).1.length = count :=
  length_pick (by rw [length_pool member]; omega) g

theorem nodup_distinctIndices (excluded count size : Nat) (g : γ) :
    (distinctIndices excluded count size g).1.Nodup :=
  nodup_pick (List.nodup_range.filter _) count g

theorem ne_of_mem_distinctIndices {i : Nat} {g : γ}
    (h : i ∈ (distinctIndices excluded count size g).1) : i ≠ excluded :=
  of_decide_eq_true (List.mem_filter.1 (mem_of_mem_pick h)).2

end Shuffle
end BoxSearch

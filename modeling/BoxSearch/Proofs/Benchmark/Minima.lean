import BoxSearch.Benchmark.Functions
import Mathlib.Algebra.Order.BigOperators.Group.List
import Mathlib.Algebra.Order.Ring.Rat
import Mathlib.Tactic.Linarith
import Mathlib.Tactic.NormNum
import Mathlib.Tactic.Positivity

/-!
# The known minima are the only ones

A benchmark is only worth something if its minimum is known, and known to be the only one.  The
functions with one minimum are sums of squares, so in exact arithmetic none of them is below zero,
and one is zero exactly where each of its squares is.

* `sum_squares_eq_zero_iff` — squares of coordinates vanish at the origin;
* `partialSums_zero_iff` — partial sums vanish at the origin as well, since each one is the one
  before it and a coordinate;
* `rosenbrock_eq_zero_iff` — along the valley each coordinate is the square of the one before it,
  so one of them fixes those that follow;
* `global_minima` — all six functions, at every point of every dimension.
-/

namespace BoxSearch
namespace Benchmark

/-! ## Sums of squares -/

theorem square_nonneg (a : Rat) : 0 ≤ square a := mul_self_nonneg a

theorem square_eq_zero_iff {a : Rat} : square a = 0 ↔ a = 0 := mul_self_eq_zero

/-- In exact arithmetic a sum begins at zero. -/
theorem sum_eq (vs : List Rat) : Scalar.sum vs = vs.sum := List.sum_eq_foldl.symm

/-- Numbers that are not negative add up to zero exactly if each of them is zero. -/
theorem sum_eq_zero_iff {vs : List Rat} (h : ∀ v ∈ vs, 0 ≤ v) :
    vs.sum = 0 ↔ ∀ v ∈ vs, v = 0 := by
  constructor
  · intro zero v hv
    exact List.all_zero_of_le_zero_le_of_sum_eq_zero h zero hv
  · exact List.sum_eq_zero

theorem sum_squares_nonneg (x : Point Rat) : 0 ≤ Scalar.sum (x.map square) := by
  rw [sum_eq]
  exact List.sum_nonneg (List.forall_mem_map.2 fun v _ => square_nonneg v)

/-- **The squares of some coordinates add up to zero at the origin only.** -/
theorem sum_squares_eq_zero_iff (x : Point Rat) :
    Scalar.sum (x.map square) = 0 ↔ x = List.replicate x.length 0 := by
  rw [sum_eq, sum_eq_zero_iff (List.forall_mem_map.2 fun v _ => square_nonneg v),
    List.forall_mem_map, List.eq_replicate_length]
  simp only [square_eq_zero_iff]

/-! ## Partial sums -/

/-- The partial sums from zero on all vanish at the origin only: none of them is more than the
one before it, so nothing was added. -/
theorem partialSums_zero_iff (x : Point Rat) :
    (∀ p ∈ partialSums 0 x, p = 0) ↔ x = List.replicate x.length 0 := by
  induction x with
  | nil => simp [partialSums]
  | cons v x ih =>
      rw [partialSums, zero_add, List.forall_mem_cons, List.length_cons, List.replicate_succ,
        List.cons_eq_cons]
      constructor
      · rintro ⟨rfl, rest⟩
        exact ⟨rfl, ih.1 rest⟩
      · rintro ⟨rfl, rest⟩
        exact ⟨rfl, ih.2 rest⟩

theorem rotatedHyperEllipsoid_eq (x : Point Rat) :
    rotatedHyperEllipsoid x = Scalar.sum ((partialSums 0 x).map square) := by
  rw [Scalar.sum, List.foldl_map]
  rfl

theorem rotatedHyperEllipsoid_eq_zero_iff (x : Point Rat) :
    rotatedHyperEllipsoid x = 0 ↔ x = List.replicate x.length 0 := by
  rw [rotatedHyperEllipsoid_eq, sum_squares_eq_zero_iff, List.eq_replicate_length,
    partialSums_zero_iff]

/-! ## The plate -/

/-- The sum of the coordinates, each with half its number, counted from one, as its weight. -/
def weightedSum (x : Point Rat) : Rat :=
  Scalar.sum (x.mapIdx fun i v => Scalar.half * (num i + num 1) * v)

theorem zakharov_eq (x : Point Rat) : zakharov x =
    Scalar.sum (x.map square) + square (weightedSum x) + square (square (weightedSum x)) := rfl

theorem weightedSum_origin {x : Point Rat} (origin : x = List.replicate x.length 0) :
    weightedSum x = 0 := by
  rw [weightedSum, sum_eq]
  refine List.sum_eq_zero fun v hv => ?_
  obtain ⟨i, hi, rfl⟩ := List.mem_mapIdx.1 hv
  rw [List.eq_replicate_length.1 origin _ (List.getElem_mem hi), mul_zero]

theorem zakharov_nonneg (x : Point Rat) : 0 ≤ zakharov x :=
  add_nonneg (add_nonneg (sum_squares_nonneg x) (square_nonneg _)) (square_nonneg _)

/-- The squares alone already vanish at the origin only, where the weighted sum vanishes too. -/
theorem zakharov_eq_zero_iff (x : Point Rat) :
    zakharov x = 0 ↔ x = List.replicate x.length 0 := by
  rw [zakharov_eq]
  constructor
  · intro zero
    have squares := sum_squares_nonneg x
    have second := square_nonneg (weightedSum x)
    have fourth := square_nonneg (square (weightedSum x))
    exact (sum_squares_eq_zero_iff x).1 (by linarith)
  · intro origin
    rw [(sum_squares_eq_zero_iff x).2 origin, weightedSum_origin origin]
    norm_num [square]

/-! ## The valley -/

/-- What two neighbouring coordinates contribute to the valley. -/
def valley (a b : Rat) : Rat := num 100 * square (b - a * a) + square (num 1 - a)

theorem valley_nonneg (a b : Rat) : 0 ≤ valley a b :=
  add_nonneg (mul_nonneg (by decide) (square_nonneg _)) (square_nonneg _)

/-- Nothing is contributed by two ones, and by no other neighbours. -/
theorem valley_eq_zero_iff {a b : Rat} : valley a b = 0 ↔ a = 1 ∧ b = 1 := by
  have hundred : (num 100 : Rat) ≠ 0 := by decide
  rw [valley, add_eq_zero_iff_of_nonneg (mul_nonneg (by decide) (square_nonneg _))
    (square_nonneg _), mul_eq_zero_iff_left hundred, square_eq_zero_iff, square_eq_zero_iff]
  constructor
  · rintro ⟨follows, one⟩
    have ha : a = 1 := (sub_eq_zero.1 one).symm
    rw [ha, mul_one] at follows
    exact ⟨ha, sub_eq_zero.1 follows⟩
  · rintro ⟨rfl, rfl⟩
    exact ⟨by norm_num, sub_self _⟩

theorem rosenbrock_cons (a b : Rat) (x : Point Rat) :
    rosenbrock (a :: b :: x) = valley a b + rosenbrock (b :: x) := by
  simp only [rosenbrock, sum_eq, List.drop_succ_cons, List.drop_zero, List.zipWith_cons_cons,
    List.sum_cons]
  rfl

theorem rosenbrock_nonneg (x : Point Rat) : 0 ≤ rosenbrock x := by
  induction x with
  | nil => exact le_rfl
  | cons a x ih =>
      cases x with
      | nil => exact le_rfl
      | cons b x =>
          rw [rosenbrock_cons]
          exact add_nonneg (valley_nonneg a b) ih

/-- **The valley has its only zero at the ones**, as soon as there are two coordinates. -/
theorem rosenbrock_eq_zero_iff {x : Point Rat} (h : 2 ≤ x.length) :
    rosenbrock x = 0 ↔ x = List.replicate x.length 1 := by
  rw [List.eq_replicate_length]
  induction x with
  | nil => exact absurd h (by decide)
  | cons a x ih =>
      cases x with
      | nil => exact absurd h (by simp)
      | cons b x =>
          rw [rosenbrock_cons, add_eq_zero_iff_of_nonneg (valley_nonneg a b) (rosenbrock_nonneg _),
            valley_eq_zero_iff, List.forall_mem_cons, List.forall_mem_cons]
          cases x with
          | nil =>
              have last : rosenbrock [b] = 0 := rfl
              simp [last]
          | cons c x =>
              rw [ih (by simp), List.forall_mem_cons]
              tauto

/-! ## Two variables -/

/-- The two squares of the plate in two variables vanish at one point only. -/
theorem booth_eq (a b : Rat) (x : Point Rat) :
    ∃ v, booth (a :: b :: x) = .ok v ∧ 0 ≤ v ∧ (v = 0 ↔ a = 1 ∧ b = 3) := by
  refine ⟨_, rfl, add_nonneg (square_nonneg _) (square_nonneg _), ?_⟩
  have two : (num 2 : Rat) = 2 := rfl
  have seven : (num 7 : Rat) = 7 := rfl
  have five : (num 5 : Rat) = 5 := rfl
  rw [add_eq_zero_iff_of_nonneg (square_nonneg _) (square_nonneg _), square_eq_zero_iff,
    square_eq_zero_iff, two, seven, five]
  constructor
  · rintro ⟨first, second⟩
    exact ⟨by linarith, by linarith⟩
  · rintro ⟨rfl, rfl⟩
    norm_num

/-! ## All of them -/

/-- **The known minima are the only ones**, in exact arithmetic and in every dimension.  None of the
functions is below zero.  The sphere, under both of its names, the hyper-ellipsoid and the plate are
zero at the origin only, the valley at the ones only, if it has two coordinates, and the plate in two
variables, which reads no other coordinates, at (1, 3) only. -/
theorem global_minima (x : Point Rat) :
    (0 ≤ sphere x ∧ (sphere x = 0 ↔ x = List.replicate x.length 0)) ∧
    (0 ≤ quadratic x ∧ (quadratic x = 0 ↔ x = List.replicate x.length 0)) ∧
    (0 ≤ rotatedHyperEllipsoid x ∧
      (rotatedHyperEllipsoid x = 0 ↔ x = List.replicate x.length 0)) ∧
    (0 ≤ zakharov x ∧ (zakharov x = 0 ↔ x = List.replicate x.length 0)) ∧
    (0 ≤ rosenbrock x ∧
      (2 ≤ x.length → (rosenbrock x = 0 ↔ x = List.replicate x.length 1))) ∧
    (2 ≤ x.length → ∃ v, booth x = .ok v ∧ 0 ≤ v ∧ (v = 0 ↔ x.take 2 = [1, 3])) := by
  refine ⟨⟨sum_squares_nonneg x, sum_squares_eq_zero_iff x⟩,
    ⟨sum_squares_nonneg x, sum_squares_eq_zero_iff x⟩,
    ⟨?_, rotatedHyperEllipsoid_eq_zero_iff x⟩, ⟨zakharov_nonneg x, zakharov_eq_zero_iff x⟩,
    ⟨rosenbrock_nonneg x, rosenbrock_eq_zero_iff⟩, fun h => ?_⟩
  · rw [rotatedHyperEllipsoid_eq]
    exact sum_squares_nonneg _
  · match x, h with
    | a :: b :: rest, _ =>
        obtain ⟨v, value, nonneg, zero⟩ := booth_eq a b rest
        exact ⟨v, value, nonneg, by simpa using zero⟩

/-- Three ones are a lowest point of the valley, three twos are none, and the plate in two variables
is zero at (1, 3). -/
theorem global_minima_samples :
    (2 ≤ [1, 1, 1].length ∧ rosenbrock ([1, 1, 1] : Point Rat) = 0) ∧
    (2 ≤ [2, 2, 2].length ∧ rosenbrock ([2, 2, 2] : Point Rat) ≠ 0) ∧
    (2 ≤ [1, 3].length ∧ booth ([1, 3] : Point Rat) = .ok 0) := by
  have ones := (global_minima [1, 1, 1]).2.2.2.2.1.2 (by decide)
  have twos := (global_minima [2, 2, 2]).2.2.2.2.1.2 (by decide)
  obtain ⟨v, value, -, zero⟩ := (global_minima [1, 3]).2.2.2.2.2 (by decide)
  refine ⟨⟨by decide, ones.2 rfl⟩, ⟨by decide, fun h => ?_⟩, by decide, ?_⟩
  · have differ : ([2, 2, 2] : Point Rat) ≠ [1, 1, 1] := by decide
    exact differ (twos.1 h)
  · rw [value, zero.2 rfl]

end Benchmark
end BoxSearch

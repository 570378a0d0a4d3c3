import BoxSearch.Proofs.Box.Holding
import BoxSearch.Proofs.Double.Nearest
import BoxSearch.Proofs.Sampling.Strata

/-!
# Draws inside the box

A free coordinate is drawn at `lower + u * (upper - lower)`, where `u` is a fraction of one.  On
the machine each of the three operations is rounded, and the result can leave the interval in two
ways only.

* The span is not finite: then a fraction of it is an infinity or a missing number
  (`Interval.isFinite_span_of_contains`).
* The fraction of a stratum is rounded to one: then the coordinate is the lower end with the span
  added, which a span that was rounded up takes beyond the upper end (`Interval.along_one`).

A fraction below one cannot do it: a part of a rounded span is never rounded to more than the exact
distance of the ends (`Interval.contains_along`).  `draws_inside_iff` says for which boxes all draws
are inside, whatever the stream and the number of members.
-/

namespace BoxSearch

open Float.Model (UnpackedFloat)
open Double (value isFinite Representable Rounds UnitFraction)

variable {γ : Type} [WordSource γ] {s : Interval Float} {u : Float}

/-! ## Coordinates along a side -/

namespace Interval

/-- The ends of an interval with a finite span are finite. -/
theorem isFinite_ends (finite : isFinite s.span = true) :
    isFinite s.upper = true ∧ isFinite s.lower = true := Double.isFinite_of_sub finite

/-- A coordinate at a rounded part of the distance is in the interval, as long as the part is. -/
theorem contains_add (finite : isFinite s.span = true) {p : Float} (hp : isFinite p = true)
    (low : 0 ≤ value p) (high : value p ≤ value s.upper - value s.lower) :
    s.contains (s.lower + p) = true := by
  obtain ⟨finiteU, finiteL⟩ := isFinite_ends finite
  obtain ⟨inside, below, above⟩ := (Double.rounds_add finiteL hp).between
    (Double.representable_value finiteL) (Double.representable_value finiteU)
    (by linarith) (by linarith)
  rw [contains_iff, Double.le_iff_value finiteL inside, Double.le_iff_value inside finiteU]
  exact ⟨below, above⟩

/-- The distance between the ends, in least units, and what it is rounded to. -/
theorem rounds_span (free : s.isFree = true) (finite : isFinite s.span = true) :
    (∃ n : ℤ, value s.upper - value s.lower = n * 2 ^ (-1074 : ℤ)) ∧
      0 < value s.upper - value s.lower ∧
      Rounds (value s.upper - value s.lower) s.span := by
  obtain ⟨finiteU, finiteL⟩ := isFinite_ends finite
  obtain ⟨n, units⟩ := (Double.representable_value finiteU).units
  obtain ⟨k, units'⟩ := (Double.representable_value finiteL).units
  refine ⟨⟨n - k, ?_⟩, ?_, Double.rounds_sub finiteU finiteL⟩
  · rw [units, units', ← sub_mul, Int.cast_sub]
  · exact sub_pos.2 ((Double.lt_iff_value finiteL finiteU).1 (s.isFree_iff.1 free))

/-- **The coordinate at a fraction below one is in the interval** when the span is finite. -/
theorem contains_along (free : s.isFree = true) (finite : isFinite s.span = true)
    (hu : UnitFraction u) : s.contains (Sampling.along s u) = true := by
  obtain ⟨units, positive, rounds⟩ := rounds_span free finite
  obtain ⟨finiteP, low, high⟩ := rounds.part_le units positive finite hu.nonneg hu.below
    (Double.rounds_mul hu.finite finite)
  exact contains_add finite finiteP low high

/-- The coordinate at the fraction one is the lower end with the span added. -/
theorem along_one (free : s.isFree = true) (finite : isFinite s.span = true)
    (hu : isFinite u = true) (one : value u = 1) : Sampling.along s u = s.lower + s.span := by
  obtain ⟨units, positive, rounds⟩ := rounds_span free finite
  have product := Double.rounds_mul hu finite
  rw [one, one_mul] at product
  obtain ⟨finiteP, same⟩ := product.exact (Double.representable_value finite)
  have some := rounds.pos units positive finite
  have all : u * s.span = s.span :=
    product.eq_of_value rounds finiteP finite same (by rw [same]; exact some.ne')
  exact congrArg (s.lower + ·) all

/-- Nothing of a span that is not finite is a missing number, so the coordinate is one. -/
theorem isFinite_span_of_contains (zero : Double.parts u = .zero .positive)
    (inside : s.contains (Sampling.along s u) = true) : isFinite s.span = true := by
  by_contra infinite
  have missing : u * s.span = Double.ofParts .notANumber := by
    show Double.ofParts (UnpackedFloat.mul .binary64 (Double.parts u) (Double.parts s.span)) = _
    rw [zero]
    unfold isFinite at infinite
    cases hs : Double.parts s.span with
    | zero sign => simp [hs] at infinite
    | finite sign m e h => simp [hs] at infinite
    | infinity sign => rfl
    | notANumber => rfl
  have coordinate : Sampling.along s u = Double.ofParts .notANumber := by
    show s.lower + u * s.span = _
    rw [missing]
    show Double.ofParts (UnpackedFloat.add .binary64 (Double.parts s.lower) .notANumber) = _
    cases Double.parts s.lower <;> rfl
  rw [coordinate] at inside
  exact Double.isNaN_eq_false_iff.1 (Double.le_iff.1 ((s.contains_iff _).1 inside).1).2.1 rfl

end Interval

/-! ## Strata -/

/-- Where the next double is two further, a fraction that is added is lost. -/
theorem value_add_of_large {x : Float} (finite : isFinite x = true) (large : 2 ^ 53 ≤ value x)
    (most : value x ≤ 2 ^ 64) (hu : UnitFraction u) :
    isFinite (x + u) = true ∧ value (x + u) = value x := by
  have hx := Double.representable_value finite
  have sum := Double.rounds_add finite hu.finite
  have low := hu.nonneg
  have high := hu.lt_one
  obtain ⟨finite', above, -⟩ := sum.between hx
    (Double.representable_two_pow (k := 65) (by decide)) (by linarith) (by linarith)
  have near := sum.nearest finite' hx
  rw [sub_add_cancel_left, abs_neg, abs_of_nonneg low] at near
  have close := (le_abs_self _).trans near
  obtain ⟨a, even⟩ := hx.even large
  obtain ⟨b, even'⟩ := (Double.representable_value finite').even (large.trans above)
  rw [even, even'] at above close
  have lower : a ≤ b := by exact_mod_cast (mul_le_mul_iff_right₀ two_pos).1 above
  have less : (b : ℚ) < a + 1 := by linarith
  have upper : b < a + 1 := by exact_mod_cast less
  exact ⟨finite', by rw [even, even', show b = a by omega]⟩

/-- The sum of a stratum's number and a fraction is not rounded beyond the number of strata. -/
theorem numerator_le {k count : ℕ} (h : k < count) (size : count < UInt64.size)
    (hu : UnitFraction u) :
    isFinite (Scalar.ofNat k + u : Float) = true ∧ isFinite (Scalar.ofNat count : Float) = true ∧
      0 ≤ value (Scalar.ofNat k + u) ∧ value (Scalar.ofNat k + u) ≤ value (Scalar.ofNat count) ∧
      0 < value (Scalar.ofNat count) := by
  have members := Double.rounds_ofNat size
  have number := Double.rounds_ofNat (h.trans size)
  have more : (k : ℚ) + 1 ≤ count := by exact_mod_cast h
  have most : (count : ℚ) ≤ 2 ^ 64 := by exact_mod_cast size.le
  have top := Double.representable_two_pow (k := 64) (by decide)
  rcases Nat.lt_or_ge k (2 ^ 53) with small | large
  · have next : Representable ((k : ℚ) + 1) := by
      exact_mod_cast Double.representable_natCast (n := k + 1) small
    obtain ⟨finiteK, exact⟩ := number.exact (Double.representable_natCast small.le)
    have sum := Double.rounds_add finiteK hu.finite
    rw [exact] at sum
    have some : (0 : ℚ) ≤ k := k.cast_nonneg
    have low := hu.nonneg
    have high := hu.lt_one
    obtain ⟨finite, above, below⟩ := sum.between Double.representable_zero next (by linarith)
      (by linarith)
    obtain ⟨finiteC, least, -⟩ := members.between next top more most
    exact ⟨finite, finiteC, above, below.trans least, by linarith⟩
  · have first : (2 : ℚ) ^ 53 ≤ k := by exact_mod_cast large
    have start := Double.representable_two_pow (k := 53) (by decide)
    obtain ⟨finiteK, lowK, highK⟩ := number.between start top first (by linarith)
    obtain ⟨finiteC, lowC, -⟩ := members.between start top (by linarith) most
    obtain ⟨finite, same⟩ := value_add_of_large finiteK lowK highK hu
    have order := number.mono members finiteK finiteC (by linarith)
    rw [same]
    exact ⟨finite, finiteC, by linarith, order, by linarith⟩

/-- The fraction of a stratum is from zero to one. -/
theorem stratum_le {k count : ℕ} (h : k < count) (size : count < UInt64.size)
    (hu : UnitFraction u) :
    isFinite ((Scalar.ofNat k + u) / Scalar.ofNat count : Float) = true ∧
      0 ≤ value ((Scalar.ofNat k + u) / Scalar.ofNat count) ∧
      value ((Scalar.ofNat k + u) / Scalar.ofNat count) ≤ 1 := by
  obtain ⟨finite, finiteC, low, high, positive⟩ := numerator_le h size hu
  have one : Representable 1 := by exact_mod_cast Double.representable_natCast (n := 1) (by decide)
  exact (Double.rounds_div finite finiteC positive.ne').between Double.representable_zero one
    (div_nonneg low positive.le) ((div_le_one positive).2 high)

namespace Sampling

variable {b : Box Float} {count j : ℕ} {g : γ}

/-! ## Uniform draws -/

/-- A coordinate of a uniform point is drawn from some source, unless its side is fixed. -/
theorem getElem?_uniformPoint {sides : List (Interval Float)} (hs : sides[j]? = some s) (g : γ) :
    ∃ g' : γ, (uniformPoint sides g).1[j]? =
      some (if s.isFree then along s (WordSource.uniform g').1 else s.lower) := by
  induction sides generalizing j g with
  | nil =>
      rw [List.getElem?_nil] at hs
      cases hs
  | cons side sides ih =>
      rw [uniformPoint]
      cases j with
      | zero =>
          rw [List.getElem?_cons_zero, Option.some_inj] at hs
          subst hs
          refine ⟨g, ?_⟩
          split <;> rfl
      | succ j => split <;> exact ih hs _

theorem contains_uniformPoint (spans : ∀ s ∈ b.sides, s.isFree = true → isFinite s.span = true)
    (g : γ) : b.contains (uniformPoint b.sides g).1 = true := by
  refine Box.contains_iff.2 ⟨length_uniformPoint b.sides g, fun j s v hs hv => ?_⟩
  obtain ⟨g', coordinate⟩ := getElem?_uniformPoint hs g
  rw [coordinate, Option.some_inj] at hv
  subst hv
  cases free : s.isFree with
  | false => exact s.contains_lower
  | true =>
      have unit := Double.unitFraction_dyadic (WordSource.fraction53_lt g')
      exact Interval.contains_along free (spans s (List.mem_of_getElem? hs) free) unit

/-- Each uniform point is drawn from some source. -/
theorem exists_of_mem_uniformPoints {sides : List (Interval Float)} {x : Point Float}
    (h : x ∈ (uniformPoints sides count g).1) : ∃ g' : γ, x = (uniformPoint sides g').1 := by
  induction count generalizing g with
  | zero => cases h
  | succ count ih =>
      rcases List.mem_cons.1 h with rfl | h
      · exact ⟨g, rfl⟩
      · exact ih h

/-- Uniform draws are inside a box with finite spans. -/
theorem contains_uniform (spans : ∀ s ∈ b.sides, s.isFree = true → isFinite s.span = true)
    {x : Point Float} (h : x ∈ (uniform count b g).1.rows) : b.contains x = true := by
  obtain ⟨g', rfl⟩ := exists_of_mem_uniformPoints h
  exact contains_uniformPoint spans g'

/-! ## Latin hypercubes -/

theorem contains_stratifiedColumn (size : count < UInt64.size) {v : Float}
    (span : s.isFree = true → isFinite s.span = true ∧ s.contains (s.lower + s.span) = true)
    (h : v ∈ (stratifiedColumn count s g).1) : s.contains v = true := by
  cases free : s.isFree with
  | false =>
      rw [stratifiedColumn_of_fixed free] at h
      rw [List.eq_of_mem_replicate h]
      exact s.contains_lower
  | true =>
      obtain ⟨finite, top⟩ := span free
      obtain ⟨k, hk, rfl⟩ := List.mem_mapIdx.1 ((perm_stratifiedColumn free count g).mem_iff.1 h)
      have length := WordSource.length_uniforms (α := Float) count g
      have unit := WordSource.unitFraction_of_mem_uniforms (List.getElem_mem hk)
      obtain ⟨number, low, high⟩ := stratum_le (length ▸ hk) size unit
      rcases high.lt_or_eq with below | one
      · exact Interval.contains_along free finite
          ⟨number, low, (Double.representable_value number).le_of_lt_one below⟩
      · show s.contains (along s _) = true
        rw [Interval.along_one free finite number one]
        exact top

/-- A Latin hypercube is inside a box with finite spans that add up. -/
theorem contains_latinHypercube (size : count < UInt64.size)
    (spans : ∀ s ∈ b.sides, s.isFree = true →
      isFinite s.span = true ∧ s.contains (s.lower + s.span) = true)
    {x : Point Float} (h : x ∈ (latinHypercube count b g).1.rows) : b.contains x = true := by
  obtain ⟨table, -⟩ := table_latinHypercube count b g
  refine Box.contains_iff.2 ⟨table.lengths x h, fun j s v hs hv => ?_⟩
  have column : v ∈ (latinHypercube count b g).1.column j := List.mem_filterMap.2 ⟨x, h, hv⟩
  rw [column_latinHypercube hs] at column
  exact contains_stratifiedColumn size (spans s (List.mem_of_getElem? hs)) column

/-- The coordinate of each stratum is the coordinate of a row. -/
theorem exists_row (hs : b.sides[j]? = some s) (free : s.isFree = true) {k : ℕ}
    (hu : (WordSource.uniforms count (sourceAt count b j g)).1[k]? = some u) :
    ∃ x ∈ (latinHypercube count b g).1.rows,
      x[j]? = some (along s ((Scalar.ofNat k + u) / Scalar.ofNat count)) := by
  obtain ⟨hk, rfl⟩ := List.getElem?_eq_some_iff.1 hu
  rw [← List.mem_filterMap, ← Population.column, column_latinHypercube hs,
    (perm_stratifiedColumn free count _).mem_iff, List.mem_mapIdx]
  exact ⟨k, hk, rfl⟩

/-! ## Streams of one word -/

/-- A source that hands out one word over and over. -/
structure Constant (word : UInt32)

instance (word : UInt32) : WordSource (Constant word) := ⟨fun g => (word, g)⟩

/-- The numerator of the fractions that are drawn from one word. -/
def Constant.numerator (word : UInt32) : ℕ :=
  (WordSource.fraction53 (⟨⟩ : Constant word)).1

theorem numerator_zero : Constant.numerator 0 = 0 := by decide

theorem numerator_ones : Constant.numerator 0xFFFFFFFF = 2 ^ 53 - 1 := by decide

theorem uniform_constant {word : UInt32} (g : Constant word) :
    (WordSource.uniform g).1 = (Scalar.dyadic (Constant.numerator word) 53 : Float) := rfl

theorem uniforms_constant {word : UInt32} (n : ℕ) (g : Constant word) :
    (WordSource.uniforms n g).1 =
      List.replicate n (Scalar.dyadic (Constant.numerator word) 53 : Float) := by
  induction n with
  | zero => rfl
  | succ n ih => exact congrArg (_ :: ·) ih

theorem parts_zero : Double.parts (Scalar.dyadic 0 53) = .zero .positive := rfl

theorem parts_first : Double.parts ((Scalar.ofNat 0 + Scalar.dyadic 0 53) / Scalar.ofNat 1) =
    .zero .positive := rfl

/-- Two words of ones are rounded to one in the second of two strata. -/
theorem second_eq_one :
    ((Scalar.ofNat 1 + Scalar.dyadic (2 ^ 53 - 1) 53) / Scalar.ofNat 2 : Float) = 1 := by
  decide +kernel

/-- When all words are zero, a free coordinate is drawn at the fraction zero. -/
theorem isFinite_span_of_uniform (hs : b.sides[j]? = some s) (free : s.isFree = true)
    (inside : ∀ x ∈ (uniform 1 b (⟨⟩ : Constant 0)).1.rows, b.contains x = true) :
    isFinite s.span = true := by
  have row : b.contains (uniformPoint b.sides (⟨⟩ : Constant 0)).1 = true :=
    inside _ (List.mem_cons_self ..)
  obtain ⟨g', coordinate⟩ := getElem?_uniformPoint hs (⟨⟩ : Constant 0)
  rw [if_pos free, uniform_constant, numerator_zero] at coordinate
  have here := (Box.contains_iff.1 row).2 j s _ hs coordinate
  exact Interval.isFinite_span_of_contains parts_zero here

/-- All coordinates of a stratum are inside when the rows are. -/
theorem contains_stratum {word : UInt32} (hs : b.sides[j]? = some s) (free : s.isFree = true)
    {k : ℕ} (hk : k < count)
    (inside : ∀ x ∈ (latinHypercube count b (⟨⟩ : Constant word)).1.rows, b.contains x = true) :
    s.contains (along s ((Scalar.ofNat k + Scalar.dyadic (Constant.numerator word) 53) /
      Scalar.ofNat count)) = true := by
  obtain ⟨x, hx, hv⟩ := exists_row (g := (⟨⟩ : Constant word)) hs free
    (by rw [uniforms_constant, List.getElem?_replicate_of_lt hk])
  exact (Box.contains_iff.1 (inside x hx)).2 j s _ hs hv

theorem isFinite_span_of_latinHypercube (hs : b.sides[j]? = some s) (free : s.isFree = true)
    (inside : ∀ x ∈ (latinHypercube 1 b (⟨⟩ : Constant 0)).1.rows, b.contains x = true) :
    isFinite s.span = true := by
  have here := contains_stratum hs free Nat.zero_lt_one inside
  rw [numerator_zero] at here
  exact Interval.isFinite_span_of_contains parts_first here

/-- When all words are as large as they can be, the second of two strata is rounded to one. -/
theorem contains_top_of_latinHypercube (hs : b.sides[j]? = some s) (free : s.isFree = true)
    (finite : isFinite s.span = true)
    (inside : ∀ x ∈ (latinHypercube 2 b (⟨⟩ : Constant 0xFFFFFFFF)).1.rows,
      b.contains x = true) : s.contains (s.lower + s.span) = true := by
  have here := contains_stratum hs free Nat.one_lt_two inside
  obtain ⟨number, one⟩ := Double.value_one
  rwa [numerator_ones, second_eq_one, Interval.along_one free finite number one] at here

/-! ## The theorem -/

/-- **When draws are inside the box.**  Uniform draws are, for every stream and every number of
members, exactly if the spans of the free sides are finite; a Latin hypercube is exactly if,
moreover, the lower end with the span added is not beyond the upper end. -/
theorem draws_inside_iff (b : Box Float) :
    ((∀ (γ : Type) [WordSource γ] (count : ℕ) (g : γ), ∀ x ∈ (uniform count b g).1.rows,
        b.contains x = true) ↔
      ∀ s ∈ b.sides, s.isFree = true → isFinite s.span = true) ∧
    ((∀ (γ : Type) [WordSource γ] (count : ℕ) (g : γ), count < UInt64.size →
        ∀ x ∈ (latinHypercube count b g).1.rows, b.contains x = true) ↔
      ∀ s ∈ b.sides, s.isFree = true →
        isFinite s.span = true ∧ s.contains (s.lower + s.span) = true) := by
  refine ⟨⟨fun inside s hs free => ?_, fun spans γ _ count g x hx => contains_uniform spans hx⟩,
    ⟨fun inside s hs free => ?_, fun spans γ _ count g size x hx =>
      contains_latinHypercube size spans hx⟩⟩
  · obtain ⟨j, hj⟩ := List.getElem?_of_mem hs
    exact isFinite_span_of_uniform hj free (inside _ 1 _)
  · obtain ⟨j, hj⟩ := List.getElem?_of_mem hs
    have finite := isFinite_span_of_latinHypercube hj free (inside _ 1 _ (by decide))
    exact ⟨finite, contains_top_of_latinHypercube hj free finite (inside _ 2 _ (by decide))⟩

/-- A side whose span exceeds all doubles. -/
def overflowingSide : Interval Float := ⟨-1.7e308, 1.7e308, by decide +kernel⟩

/-- A side whose span is rounded up, so that the lower end with the span added is above the upper
end. -/
def slippingSide : Interval Float := ⟨-1e16, 3, by decide +kernel⟩

/-- Two boxes that are accepted and left, one by both draws, since its span is an infinity, and one
with a finite span by a Latin hypercube. -/
theorem draws_leave_box :
    (Box.ofEnds [-1.7e308] [1.7e308] = .ok ⟨[overflowingSide]⟩ ∧
      (∃ x ∈ (uniform 1 ⟨[overflowingSide]⟩ (Generator.ofSeed 1)).1.rows,
        Box.contains ⟨[overflowingSide]⟩ x = false) ∧
      ∃ x ∈ (latinHypercube 1 ⟨[overflowingSide]⟩ (Generator.ofSeed 1)).1.rows,
        Box.contains ⟨[overflowingSide]⟩ x = false) ∧
    Box.ofEnds [-1e16] [3] = .ok ⟨[slippingSide]⟩ ∧ isFinite slippingSide.span = true ∧
      ∃ x ∈ (latinHypercube 2 ⟨[slippingSide]⟩ (⟨⟩ : Constant 0xFFFFFFFF)).1.rows,
        Box.contains ⟨[slippingSide]⟩ x = false := by
  refine ⟨⟨?_, ?_, ?_⟩, ?_, ?_, ?_⟩
  · exact Box.ofEnds_interval overflowingSide
  · decide +kernel
  · decide +kernel
  · exact Box.ofEnds_interval slippingSide
  · decide +kernel
  · decide +kernel

end Sampling

end BoxSearch

import BoxSearch.Proofs.Double.Rounding

/-!
# Nearest doubles

A fraction is rounded to the nearest double.  What that means for comparisons is collected here:
what lies between two doubles is rounded to one between them, what is a double is kept, and only
what exceeds the largest double can be rounded to an infinity.

* `Representable` — the fractions that doubles stand for;
* `Rounds.nearest`, `Rounds.between`, `Rounds.exact` — what rounding does to a fraction;
* `Rounds.part_le` — a part of a distance, both rounded, is at most the distance;
* `value_dyadic` — a fraction of 53 places below one is a double.
-/

namespace BoxSearch
namespace Double

open Float.Model (UnpackedFloat Format)
open Float.Model.UnpackedFloat (Sign)

/-! ## The values of doubles -/

/-- The largest finite double. -/
def largest : ℚ := (2 ^ 53 - 1) * 2 ^ (971 : ℤ)

/-- What a finite double can stand for: a whole number of 53 bits, scaled. -/
def Representable (z : ℚ) : Prop :=
  ∃ n e : ℤ, |n| < 2 ^ 53 ∧ -1074 ≤ e ∧ e ≤ 971 ∧ z = n * 2 ^ e

section

variable {x : Float} {z : ℚ}

theorem representable_value (h : isFinite x = true) : Representable (value x) := by
  rcases parts_cases h with ⟨s, -, v⟩ | ⟨s, m, e, hm, -, c, v⟩
  · exact ⟨0, 0, by decide, by decide, by decide, by rw [v, Int.cast_zero, zero_mul]⟩
  · have bits : |s.apply m| = m := by
      cases s with
      | positive => exact abs_of_nonneg (Int.natCast_nonneg m)
      | negative => exact (abs_neg _).trans (abs_of_nonneg (Int.natCast_nonneg m))
    refine ⟨s.apply m, e, ?_, c.least, c.most, by rw [v, signed_apply]⟩
    rw [bits]
    exact_mod_cast c.lt

theorem representable_two_pow {k : ℕ} (h : k ≤ 971) : Representable (2 ^ k) :=
  ⟨1, k, by decide, by omega, by omega, by rw [Int.cast_one, one_mul, zpow_natCast]⟩

theorem representable_natCast {n : ℕ} (h : n ≤ 2 ^ 53) : Representable n := by
  rcases h.lt_or_eq with less | rfl
  · refine ⟨n, 0, ?_, by decide, by decide, by rw [zpow_zero, mul_one, Int.cast_natCast]⟩
    rw [abs_of_nonneg (Int.natCast_nonneg n)]
    exact_mod_cast less
  · rw [Nat.cast_pow, Nat.cast_ofNat]
    exact representable_two_pow (k := 53) (by decide)

theorem representable_zero : Representable 0 := by
  have := representable_natCast (Nat.zero_le (2 ^ 53))
  rwa [Nat.cast_zero] at this

theorem Representable.neg (h : Representable z) : Representable (-z) := by
  obtain ⟨n, e, lt, least, most, rfl⟩ := h
  exact ⟨-n, e, by rwa [abs_neg], least, most, by rw [Int.cast_neg, neg_mul]⟩

theorem Representable.signed (h : Representable z) (s : Sign) : Representable (signed s z) := by
  cases s with
  | positive => exact h
  | negative => exact h.neg

theorem representable_largest : Representable largest :=
  ⟨2 ^ 53 - 1, 971, by decide, by decide, le_refl _, by rw [largest]; norm_num⟩

theorem Representable.abs_le (h : Representable z) : |z| ≤ largest := by
  obtain ⟨n, e, lt, -, most, rfl⟩ := h
  have bits : |(n : ℚ)| ≤ 2 ^ 53 - 1 := by exact_mod_cast Int.le_sub_one_of_lt lt
  rw [abs_mul, abs_of_pos (zpow_pos two_pos e : (0 : ℚ) < 2 ^ e), largest]
  exact mul_le_mul bits (zpow_le_zpow_right₀ one_le_two most) (by positivity) (by norm_num)

/-- In units of some size, a double is a whole number of them, or less than what fills 53 places. -/
theorem Representable.whole_or_less (h : Representable z) (t : ℤ) :
    (∃ n : ℤ, z = n * 2 ^ t) ∨ -1074 < t ∧ |z| < 2 ^ 52 * 2 ^ t := by
  obtain ⟨n, e, lt, least, -, rfl⟩ := h
  rcases le_or_gt t e with fine | coarse
  · obtain ⟨k, rfl⟩ : ∃ k : ℕ, e = t + k := ⟨(e - t).toNat, by omega⟩
    refine .inl ⟨n * 2 ^ k, ?_⟩
    rw [zpow_add₀ two_ne_zero, zpow_natCast]
    push_cast
    ring
  · refine .inr ⟨by omega, ?_⟩
    have bits : |(n : ℚ)| < 2 ^ 53 := by exact_mod_cast lt
    have below : (2 : ℚ) ^ (e + 1) ≤ 2 ^ t := zpow_le_zpow_right₀ one_le_two (by omega)
    rw [abs_mul, abs_of_pos (zpow_pos two_pos e : (0 : ℚ) < 2 ^ e)]
    calc |(n : ℚ)| * 2 ^ e < 2 ^ 53 * 2 ^ e := mul_lt_mul_of_pos_right bits (by positivity)
      _ = 2 ^ 52 * 2 ^ (e + 1) := by rw [zpow_add_one₀ two_ne_zero]; ring
      _ ≤ 2 ^ 52 * 2 ^ t := mul_le_mul_of_nonneg_left below (by positivity)

end

/-! ## Nearest values -/

section

variable {y z : ℚ} {r : ℕ} {t : ℤ}

theorem Rounding.nearest (h : Rounding y r t) (n : ℤ) : |(r : ℚ) - y| ≤ |n - y| := by
  by_cases same : n = r
  · rw [same, Int.cast_natCast]
  · have apart : 1 ≤ |(n : ℚ) - r| := by
      exact_mod_cast Int.one_le_abs (sub_ne_zero.2 same)
    have triangle : |(n : ℚ) - r| ≤ |n - y| + |(r : ℚ) - y| := by
      rw [abs_sub_comm (r : ℚ) y]
      exact abs_sub_le _ _ _
    have near := h.near
    linarith

/-- No double is nearer than the rounded one. -/
theorem Rounding.nearest_scaled (h : Rounding y r t) (hz : Representable z) :
    |r * 2 ^ t - y * 2 ^ t| ≤ |z - y * 2 ^ t| := by
  have unit : (0 : ℚ) < 2 ^ t := by positivity
  have moved (w : ℚ) : |w * 2 ^ t - y * 2 ^ t| = |w - y| * 2 ^ t := by
    rw [← sub_mul, abs_mul, abs_of_pos unit]
  rcases hz.whole_or_less t with ⟨n, rfl⟩ | ⟨above, less⟩
  · rw [moved, moved]
    exact mul_le_mul_of_nonneg_right (h.nearest n) unit.le
  · have first : 2 ^ 52 ≤ y := h.full.resolve_right above.ne'
    have place := h.nearest ((2 ^ 52 : ℕ) : ℤ)
    rw [Int.cast_natCast, Nat.cast_pow, Nat.cast_ofNat] at place
    rw [abs_sub_comm ((2 : ℚ) ^ 52), abs_of_nonneg (sub_nonneg.2 first)] at place
    have beyond := (abs_lt.1 less).2
    rw [moved]
    calc |(r : ℚ) - y| * 2 ^ t ≤ (y - 2 ^ 52) * 2 ^ t := mul_le_mul_of_nonneg_right place unit.le
      _ ≤ y * 2 ^ t - z := by rw [sub_mul]; linarith
      _ ≤ |z - y * 2 ^ t| := by
          rw [abs_sub_comm]
          exact le_abs_self _

/-- The parts that are written stand for the rounded units. -/
theorem written_cases (h : Rounding y r t) (s : Sign) :
    (written s r t = .zero s ∧ r = 0) ∨
      ∃ m e hm, written s r t = .finite s m e hm ∧ m < 2 ^ 53 ∧ -1074 ≤ e ∧
        (2 ^ 52 ≤ m ∨ e = -1074) ∧ (m : ℚ) * 2 ^ e = r * 2 ^ t := by
  have least := h.least
  unfold written
  by_cases zero : r = 0
  · exact .inl ⟨dif_pos zero, zero⟩
  · rw [dif_neg zero]
    by_cases less : r < 2 ^ 53
    · rw [if_pos less]
      exact .inr ⟨r, t, _, rfl, less, least, h.full.imp_left h.ge, rfl⟩
    · rw [if_neg less]
      refine .inr ⟨2 ^ 52, t + 1, _, rfl, by norm_num, by omega, .inl le_rfl, ?_⟩
      rw [le_antisymm h.le (not_lt.1 less), zpow_add_one₀ two_ne_zero]
      push_cast
      ring

theorem partsValue_written (h : Rounding y r t) (s : Sign) :
    partsValue (written s r t) = signed s (r * 2 ^ t) := by
  rcases written_cases h s with ⟨parts, rfl⟩ | ⟨m, e, hm, parts, -, -, -, same⟩
  · rw [parts, Nat.cast_zero, zero_mul]
    cases s with
    | positive => rfl
    | negative => exact neg_zero.symm
  · rw [parts, partsValue_finite, same]

/-- What is not above the largest double fits its exponent. -/
theorem exponent_le {n : ℕ} (first : 2 ^ 52 ≤ n) (h : n * 2 ^ t ≤ largest) : t ≤ 971 := by
  have places : (2 : ℚ) ^ 52 ≤ n := by exact_mod_cast first
  have order : (2 : ℚ) ^ 52 * 2 ^ t < 2 ^ 52 * 2 ^ (972 : ℤ) :=
    calc (2 : ℚ) ^ 52 * 2 ^ t ≤ n * 2 ^ t := mul_le_mul_of_nonneg_right places (by positivity)
      _ ≤ largest := h
      _ < 2 ^ 53 * 2 ^ (971 : ℤ) := mul_lt_mul_of_pos_right (by norm_num) (by positivity)
      _ = 2 ^ 52 * 2 ^ (972 : ℤ) := by
          rw [show (972 : ℤ) = 971 + 1 from rfl, zpow_add_one₀ two_ne_zero]
          ring
  have := (zpow_lt_zpow_iff_right₀ one_lt_two).1 (lt_of_mul_lt_mul_left order (by positivity))
  omega

theorem Rounding.ordinary_of_le (h : Rounding y r t) (s : Sign) (bound : r * 2 ^ t ≤ largest) :
    Ordinary (written s r t) := by
  rcases written_cases h s with ⟨parts, -⟩ | ⟨m, e, hm, parts, lt, least, full, same⟩
  · rw [parts]
    exact .zero s
  · rw [parts]
    refine .finite s m e hm ⟨lt, least, ?_, full⟩
    rw [← same] at bound
    rcases full with first | lowest
    · exact exponent_le first bound
    · omega

theorem isFinite_ofParts_infinity (s : Sign) : isFinite (ofParts (.infinity s)) = false := by
  cases s <;> rfl

/-- An exponent that is too large is written as an infinity. -/
theorem le_of_isFinite_ofParts {s : Sign} {m : ℕ} {e : ℤ} {hm : 0 < m}
    (h : isFinite (ofParts (.finite s m e hm)) = true) : e ≤ 971 := by
  by_contra above
  have biased : (e + (Format.binary64.exponentBias : ℤ) +
      (Format.binary64.mantissaBitsWithoutImplicit : ℤ)).toNat = (e + 1075).toNat := by
    rw [exponentBias_eq, storedBits_eq, add_assoc]
    rfl
  have infinite : UnpackedFloat.pack .binary64 (.finite s m e hm) =
      UnpackedFloat.pack .binary64 (.infinity s) := by
    unfold UnpackedFloat.pack
    simp only [biased]
    rw [if_pos (by omega)]
  have same : ofParts (.finite s m e hm) = ofParts (.infinity s) := by
    unfold ofParts Float.Model.pack
    simp only [infinite]
  rw [same, isFinite_ofParts_infinity] at h
  cases h

theorem Rounding.ordinary_of_isFinite (h : Rounding y r t) (s : Sign)
    (finite : isFinite (ofParts (written s r t)) = true) : Ordinary (written s r t) := by
  rcases written_cases h s with ⟨parts, -⟩ | ⟨m, e, hm, parts, lt, least, full, -⟩
  · rw [parts]
    exact .zero s
  · rw [parts] at finite ⊢
    exact .finite s m e hm ⟨lt, least, le_of_isFinite_ofParts finite, full⟩

end

/-! ## What a fraction is rounded to -/

section

variable {X Z Z' : ℚ} {x : Float}

theorem abs_signed_sub_signed (s : Sign) (a b : ℚ) : |signed s a - signed s b| = |a - b| := by
  cases s with
  | positive => rfl
  | negative =>
      show |(-a) - (-b)| = |a - b|
      rw [neg_sub_neg, abs_sub_comm]

theorem abs_sub_signed (s : Sign) (a b : ℚ) : |a - signed s b| = |signed s a - b| := by
  cases s with
  | positive => rfl
  | negative =>
      show |a - (-b)| = |(-a) - b|
      rw [← abs_neg]
      congr 1
      ring

theorem abs_signed (s : Sign) (a : ℚ) : |signed s a| = |a| := by
  cases s with
  | positive => rfl
  | negative => exact abs_neg a

/-- What is at most the largest double is rounded to a finite one. -/
theorem Rounds.finite (h : Rounds X x) (bound : |X| ≤ largest) : isFinite x = true := by
  obtain ⟨s, y, r, t, rounding, rfl, rfl⟩ := h
  have below : y * 2 ^ t ≤ largest := by
    rw [abs_signed] at bound
    exact (le_abs_self _).trans bound
  have near := rounding.nearest_scaled representable_largest
  rw [abs_of_nonneg (sub_nonneg.2 below)] at near
  have ordinary := rounding.ordinary_of_le s (by linarith [le_abs_self (r * 2 ^ t - y * 2 ^ t)])
  refine isFinite_of_parts ?_
  rw [parts_ofParts ordinary]
  exact ordinary

/-- **A fraction is rounded to the nearest double**: no other one is nearer. -/
theorem Rounds.nearest (h : Rounds X x) (finite : isFinite x = true)
    (hZ : Representable Z) : |value x - X| ≤ |Z - X| := by
  obtain ⟨s, y, r, t, rounding, rfl, rfl⟩ := h
  have ordinary := rounding.ordinary_of_isFinite s finite
  rw [value, parts_ofParts ordinary, partsValue_written rounding, abs_signed_sub_signed,
    abs_sub_signed]
  exact rounding.nearest_scaled (hZ.signed s)

/-- **What lies between two doubles is rounded to one between them.** -/
theorem Rounds.between (h : Rounds X x) (hZ : Representable Z) (hZ' : Representable Z')
    (low : Z ≤ X) (high : X ≤ Z') :
    isFinite x = true ∧ Z ≤ value x ∧ value x ≤ Z' := by
  have finite : isFinite x = true := h.finite
    (abs_le.2 ⟨(abs_le.1 hZ.abs_le).1.trans low, high.trans (abs_le.1 hZ'.abs_le).2⟩)
  have below := h.nearest finite hZ
  have above := h.nearest finite hZ'
  rw [abs_of_nonpos (sub_nonpos.2 low)] at below
  rw [abs_of_nonneg (sub_nonneg.2 high)] at above
  refine ⟨finite, ?_, ?_⟩
  · linarith [neg_abs_le (value x - X)]
  · linarith [le_abs_self (value x - X)]

/-- Rounding keeps the order. -/
theorem Rounds.mono {Y : ℚ} {y : Float} (hx : Rounds X x) (hy : Rounds Y y)
    (finiteX : isFinite x = true) (finiteY : isFinite y = true) (h : X < Y) :
    value x ≤ value y := by
  have near := hx.nearest finiteX (representable_value finiteY)
  have near' := hy.nearest finiteY (representable_value finiteX)
  by_contra more
  rcases abs_cases (value y - X) with ⟨size, -⟩ | ⟨size, -⟩ <;>
    rcases abs_cases (value x - Y) with ⟨size', -⟩ | ⟨size', -⟩ <;>
    rw [size] at near <;> rw [size'] at near' <;>
    linarith [le_abs_self (value x - X), neg_abs_le (value y - Y)]

/-- What is a double is rounded to itself. -/
theorem Rounds.exact (h : Rounds X x) (hX : Representable X) :
    isFinite x = true ∧ value x = X := by
  obtain ⟨finite, low, high⟩ := h.between hX hX le_rfl le_rfl
  exact ⟨finite, le_antisymm high low⟩

end

/-! ## Neighbours -/

section

variable {x y : Float} {z : ℚ} {m : ℕ} {e : ℤ}

theorem Representable.units (h : Representable z) : ∃ n : ℤ, z = n * 2 ^ (-1074 : ℤ) := by
  obtain ⟨n, e, -, least, -, rfl⟩ := h
  obtain ⟨k, rfl⟩ : ∃ k : ℕ, e = k + (-1074) := ⟨(e + 1074).toNat, by omega⟩
  refine ⟨n * 2 ^ k, ?_⟩
  rw [zpow_add₀ two_ne_zero, zpow_natCast, Int.cast_mul, Int.cast_pow, Int.cast_ofNat, mul_assoc]

/-- Above `2 ^ 53` all doubles are even. -/
theorem Representable.even (h : Representable z) (large : 2 ^ 53 ≤ z) : ∃ n : ℤ, z = 2 * n := by
  rcases h.whole_or_less 1 with ⟨n, rfl⟩ | ⟨-, less⟩
  · exact ⟨n, by rw [zpow_one, mul_comm]⟩
  · have := (abs_lt.1 less).2
    rw [zpow_one] at this
    linarith

/-- The last double before one is `1 - 2 ^ -53`. -/
theorem Representable.le_of_lt_one (h : Representable z) (lt : z < 1) :
    z ≤ 1 - 1 / 2 ^ 53 := by
  rcases h.whole_or_less (-53) with ⟨n, rfl⟩ | ⟨-, less⟩
  · have unit : (2 : ℚ) ^ (-53 : ℤ) = 1 / 2 ^ 53 := by rw [zpow_neg, one_div]; rfl
    rw [unit, mul_one_div, div_lt_one (by positivity)] at lt
    have last : n ≤ 2 ^ 53 - 1 := Int.le_sub_one_of_lt (by exact_mod_cast lt)
    have bound : (n : ℚ) ≤ 2 ^ 53 - 1 := by exact_mod_cast last
    rw [unit, mul_one_div, le_sub_iff_add_le, ← add_div, div_le_one (by positivity)]
    linarith
  · have below := (abs_lt.1 less).2
    have half : (2 : ℚ) ^ 52 * 2 ^ (-53 : ℤ) = 1 / 2 := by norm_num
    rw [half] at below
    have : (1 : ℚ) / 2 ^ 53 ≤ 1 / 2 := by norm_num
    linarith

/-- The double before a normal one is close to it. -/
theorem Canonical.predecessor (c : Canonical m e) (normal : e ≠ -1074) :
    ∃ z, Representable z ∧ z < m * 2 ^ e ∧ m * 2 ^ e - z < m * 2 ^ e / 2 ^ 52 := by
  have first : 2 ^ 52 ≤ m := c.full.resolve_right normal
  have unit : (0 : ℚ) < 2 ^ e := by positivity
  have least := c.least
  rcases first.eq_or_lt with exact | more
  · have whole : (m : ℚ) * 2 ^ e = 2 ^ 53 * 2 ^ (e - 1) := by
      rw [← exact, zpow_sub_one₀ two_ne_zero]
      push_cast
      ring
    have small : (0 : ℚ) < 2 ^ (e - 1) := by positivity
    refine ⟨((2 ^ 53 - 1 : ℤ) : ℚ) * 2 ^ (e - 1),
      ⟨_, _, by decide, by omega, by have := c.most; omega, rfl⟩, ?_, ?_⟩
    · rw [whole]
      push_cast
      linarith
    · rw [whole]
      push_cast
      linarith
  · have above : (2 : ℚ) ^ 52 < m := by exact_mod_cast more
    have lt := c.lt
    refine ⟨((m - 1 : ℤ) : ℚ) * 2 ^ e,
      ⟨_, _, by rw [abs_of_nonneg (by omega)]; omega, least, c.most, rfl⟩, ?_, ?_⟩
    · push_cast
      linarith
    · push_cast
      rw [lt_div_iff₀ (by positivity)]
      nlinarith

/-- A difference is finite only between finite doubles. -/
theorem isFinite_of_sub (h : isFinite (x - y) = true) : isFinite x = true ∧ isFinite y = true := by
  have none : isFinite (ofParts .notANumber) = false := rfl
  have infinite := isFinite_ofParts_infinity
  have difference : x - y = ofParts (UnpackedFloat.sub .binary64 (parts x) (parts y)) := rfl
  rw [difference] at h
  generalize hx : parts x = u at h
  generalize hy : parts y = v at h
  unfold isFinite
  rw [hx, hy]
  cases u <;> cases v <;> try exact ⟨rfl, rfl⟩
  -- what is left is a difference with an infinity or a missing number
  all_goals
    dsimp only [UnpackedFloat.sub] at h
    try split at h
  all_goals simp only [none, infinite, Bool.false_eq_true] at h

/-- Parts that stand for one fraction are the same, zeros apart. -/
theorem eq_of_partsValue {u v : UnpackedFloat} (hu : Ordinary u) (hv : Ordinary v)
    (same : partsValue u = partsValue v) (some : partsValue u ≠ 0) : u = v := by
  have rank : partsRank u = partsRank v := by
    rcases lt_trichotomy (partsRank u) (partsRank v) with below | rank | above
    · exact absurd same (partsValue_lt hu hv below).ne
    · exact rank
    · exact absurd same (partsValue_lt hv hu above).ne'
  cases hu with
  | zero s => exact absurd rfl some
  | finite s m e hm c =>
      cases hv with
      | zero t => exact absurd same some
      | finite t n k hn c' => cases s <;> cases t <;> simp_all [partsRank]

/-- Of two roundings with one value, other than zero, there is but one double. -/
theorem Rounds.eq_of_value {X Y : ℚ} (hx : Rounds X x) (hy : Rounds Y y)
    (finiteX : isFinite x = true) (finiteY : isFinite y = true)
    (same : value x = value y) (some : value x ≠ 0) : x = y := by
  obtain ⟨s, p, r, t, rounding, -, rfl⟩ := hx
  obtain ⟨s', p', r', t', rounding', -, rfl⟩ := hy
  have ordinary := rounding.ordinary_of_isFinite s finiteX
  have ordinary' := rounding'.ordinary_of_isFinite s' finiteY
  rw [value, parts_ofParts ordinary] at same some
  rw [value, parts_ofParts ordinary'] at same
  rw [eq_of_partsValue ordinary ordinary' same some]

end

/-! ## Parts of a distance -/

section

variable {D t : ℚ} {d p : Float}

/-- A positive number of least units is rounded to a positive double. -/
theorem Rounds.pos (units : ∃ n : ℤ, D = n * 2 ^ (-1074 : ℤ)) (positive : 0 < D)
    (h : Rounds D d) (finite : isFinite d = true) : 0 < value d := by
  have unit : (0 : ℚ) < 2 ^ (-1074 : ℤ) := zpow_pos two_pos _
  have least : Representable (2 ^ (-1074 : ℤ)) :=
    ⟨1, -1074, by decide, le_rfl, by decide, by rw [Int.cast_one, one_mul]⟩
  have near := h.nearest finite least
  generalize (2 : ℚ) ^ (-1074 : ℤ) = w at unit units near
  obtain ⟨n, rfl⟩ := units
  have some : (1 : ℚ) ≤ n := by
    have : 0 < n := by exact_mod_cast pos_of_mul_pos_left positive unit.le
    exact_mod_cast this
  have above : w ≤ n * w := le_mul_of_one_le_left unit.le some
  rw [abs_of_nonpos (sub_nonpos.2 above)] at near
  linarith [neg_abs_le (value d - n * w)]

/-- **A part of a rounded distance, rounded, is at most the distance**, even when the distance was
rounded up: the part would have to come back to all of what was rounded up. -/
theorem Rounds.part_le (units : ∃ n : ℤ, D = n * 2 ^ (-1074 : ℤ)) (positive : 0 < D)
    (hd : Rounds D d) (finite : isFinite d = true) (low : 0 ≤ t)
    (high : t ≤ 1 - 1 / 2 ^ 53) (hp : Rounds (t * value d) p) :
    isFinite p = true ∧ 0 ≤ value p ∧ value p ≤ D := by
  have some := hd.pos units positive finite
  have most : t ≤ 1 := high.trans (by norm_num)
  obtain ⟨finiteP, lowP, highP⟩ := hp.between representable_zero (representable_value finite)
    (mul_nonneg low some.le) (mul_le_of_le_one_left some.le most)
  refine ⟨finiteP, lowP, ?_⟩
  by_contra more
  have above := not_le.1 more
  -- both are above the distance, and none is nearer to it than what it was rounded to
  have near := hd.nearest finite (representable_value finiteP)
  rw [abs_of_pos (by linarith), abs_of_pos (by linarith)] at near
  have whole : value p = value d := by linarith
  rcases parts_cases finite with ⟨s, -, v⟩ | ⟨s, m, e, hm, -, c, v⟩
  · linarith
  · have plus : value d = m * 2 ^ e := by
      cases s with
      | positive => exact v
      | negative =>
          have minus : value d = -(m * 2 ^ e) := v
          linarith [scaled_pos e hm]
    by_cases least : e = -1074
    · -- a distance of so few units is not rounded at all
      have exact : Representable D := by
        obtain ⟨n, rfl⟩ := units
        refine ⟨n, -1074, ?_, le_rfl, by decide, rfl⟩
        have unit : (0 : ℚ) < 2 ^ (-1074 : ℤ) := zpow_pos two_pos _
        rw [whole, plus, least] at above
        have less : n < m := by exact_mod_cast lt_of_mul_lt_mul_right above unit.le
        have none : 0 < n := by exact_mod_cast pos_of_mul_pos_left positive unit.le
        have := c.lt
        rw [abs_of_pos none]
        omega
      have same := (hd.exact exact).2
      linarith
    · -- the part lies more than half-way down to the double before
      obtain ⟨z, hz, below, close⟩ := c.predecessor least
      have nearest := hp.nearest finiteP hz
      rw [whole, plus] at nearest
      have apart : t * (m * 2 ^ e) ≤ m * 2 ^ e - m * 2 ^ e / 2 ^ 53 :=
        calc t * (m * 2 ^ e) ≤ (1 - 1 / 2 ^ 53) * (m * 2 ^ e) :=
              mul_le_mul_of_nonneg_right high (scaled_pos e hm).le
          _ = m * 2 ^ e - m * 2 ^ e / 2 ^ 53 := by ring
      generalize (m : ℚ) * 2 ^ e = S at nearest apart below close
      rcases abs_cases (z - t * S) with ⟨size, -⟩ | ⟨size, -⟩ <;> rw [size] at nearest <;>
        linarith [le_abs_self (S - t * S)]

end

/-! ## Fractions of one -/

section

/-- A natural number is rounded to a double. -/
theorem rounds_ofNat {n : ℕ} (h : n < UInt64.size) : Rounds n (Scalar.ofNat n : Float) := by
  have rounds := rounds_toFloat (UInt64.ofNat n)
  rwa [UInt64.toNat_ofNat_of_lt' h] at rounds

theorem value_one : isFinite 1 = true ∧ value 1 = 1 := by
  have rounds := rounds_ofNat (n := 1) (by decide)
  have one : (Scalar.ofNat 1 : Float) = 1 := by decide +kernel
  rw [one] at rounds
  exact_mod_cast rounds.exact (representable_natCast (by decide))

/-- A multiple of `2 ^ -53` below one is a double. -/
theorem value_dyadic {m : ℕ} (h : m < 2 ^ 53) :
    isFinite (Scalar.dyadic m 53 : Float) = true ∧
      value (Scalar.dyadic m 53) = m / 2 ^ 53 := by
  have size : (2 ^ 53 : ℕ) < UInt64.size := by decide
  obtain ⟨finite, number⟩ := (rounds_ofNat (h.trans size)).exact (representable_natCast h.le)
  have denominator := rounds_ofNat size
  rw [Nat.cast_pow, Nat.cast_ofNat] at denominator
  obtain ⟨finite', unit⟩ := denominator.exact (representable_two_pow (k := 53) (by decide))
  have fraction : Representable ((m : ℚ) / 2 ^ 53) := by
    refine ⟨m, -53, ?_, by decide, by decide, by rw [zpow_neg, div_eq_mul_inv]; rfl⟩
    rw [abs_of_nonneg (Int.natCast_nonneg m)]
    exact_mod_cast h
  have rounds := rounds_div finite finite' (by rw [unit]; norm_num)
  rw [number, unit] at rounds
  exact rounds.exact fraction

/-- A double from zero to the last one before one. -/
structure UnitFraction (u : Float) : Prop where
  finite : isFinite u = true
  nonneg : 0 ≤ value u
  below : value u ≤ 1 - 1 / 2 ^ 53

theorem UnitFraction.lt_one {u : Float} (h : UnitFraction u) : value u < 1 :=
  h.below.trans_lt (by norm_num)

theorem UnitFraction.below_one {u : Float} (h : UnitFraction u) : u < 1 := by
  obtain ⟨finite, one⟩ := value_one
  rw [lt_iff_value h.finite finite, one]
  exact h.lt_one

theorem UnitFraction.zero_le {u : Float} (h : UnitFraction u) : 0 ≤ u := by
  have zero : value 0 = 0 := rfl
  rw [le_iff_value (by decide +kernel) h.finite, zero]
  exact h.nonneg

theorem unitFraction_dyadic {m : ℕ} (h : m < 2 ^ 53) : UnitFraction (Scalar.dyadic m 53) := by
  obtain ⟨finite, number⟩ := value_dyadic h
  have next : m + 1 ≤ 2 ^ 53 := h
  have last : (m : ℚ) + 1 ≤ 2 ^ 53 := by exact_mod_cast next
  refine ⟨finite, ?_, ?_⟩
  · rw [number]
    positivity
  · rw [number, div_le_iff₀ (by positivity), sub_mul, one_mul, div_mul_cancel₀ _ (by positivity)]
    linarith

end

end Double
end BoxSearch

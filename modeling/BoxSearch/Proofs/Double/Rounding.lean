import BoxSearch.Proofs.Double.Whole

/-!
# Rounded operations

The model of the machine computes a sum, a product or a quotient in full, and cuts the result off
to 53 places.  Two bits behind the last place, one for a half and one for anything more, are enough
to round the result to the nearest number of places.

* `Describes` — a significand and its two bits stand for a fraction, however far it is shifted;
* `Rounding` — a number of units, rounded to a whole one of 53 bits;
* `Rounds` — a double is what a fraction is rounded to;
* `rounds_add`, `rounds_sub`, `rounds_mul`, `rounds_div` — the operations round once, from the
  exact values of their operands.
-/

namespace BoxSearch
namespace Double

open Float.Model (UnpackedFloat Format totalExponent)
open Float.Model.UnpackedFloat (Sign Accuracy ExtendedMantissa shiftToTargetExponent
  shiftToExponent roundWithAccuracy accuracyOfFraction)

/-! ## Cutting off places -/

/-- A significand with its two further bits describes a number: its whole part, whether a half is
reached, and whether there is more than that. -/
structure Describes (em : ExtendedMantissa) (x : ℚ) : Prop where
  low : em.mantissa ≤ x
  high : x < em.mantissa + 1
  round : em.roundBit = true ↔ (em.mantissa : ℚ) + 1 / 2 ≤ x
  sticky : em.stickyBit = true ↔ x ≠ em.mantissa ∧ x ≠ em.mantissa + 1 / 2

section

variable {em : ExtendedMantissa} {x : ℚ}

/-- A description of half the number. -/
theorem Describes.shiftRightOne (h : Describes em x) : Describes em.shiftRightOne (x / 2) := by
  obtain ⟨low, high, round, sticky⟩ := h
  have halves : (em.mantissa : ℚ) = 2 * (em.mantissa / 2 : ℕ) + (em.mantissa % 2 : ℕ) := by
    exact_mod_cast (Nat.div_add_mod em.mantissa 2).symm
  have rest : (em.roundBit || em.stickyBit) = true ↔ x ≠ em.mantissa := by
    rw [Bool.or_eq_true, round, sticky]
    constructor
    · rintro (half | ⟨more, -⟩)
      · intro none
        linarith
      · exact more
    · intro more
      by_cases half : x = em.mantissa + 1 / 2
      · exact .inl half.ge
      · exact .inr ⟨more, half⟩
  rcases Nat.mod_two_eq_zero_or_one em.mantissa with even | odd
  · rw [even] at halves
    constructor
    · show ((em.mantissa / 2 : ℕ) : ℚ) ≤ x / 2
      push_cast at halves
      linarith
    · show x / 2 < ((em.mantissa / 2 : ℕ) : ℚ) + 1
      push_cast at halves
      linarith
    · show (em.mantissa % 2 != 0) = true ↔ ((em.mantissa / 2 : ℕ) : ℚ) + 1 / 2 ≤ x / 2
      rw [even]
      push_cast at halves
      exact iff_of_false (by decide) (by linarith)
    · show (em.roundBit || em.stickyBit) = true ↔
        x / 2 ≠ ((em.mantissa / 2 : ℕ) : ℚ) ∧ x / 2 ≠ ((em.mantissa / 2 : ℕ) : ℚ) + 1 / 2
      rw [rest]
      push_cast at halves
      constructor
      · intro more
        exact ⟨fun same => more (by linarith), fun same => by linarith⟩
      · rintro ⟨more, -⟩ same
        exact more (by linarith)
  · rw [odd] at halves
    push_cast at halves
    constructor
    · show ((em.mantissa / 2 : ℕ) : ℚ) ≤ x / 2
      linarith
    · show x / 2 < ((em.mantissa / 2 : ℕ) : ℚ) + 1
      linarith
    · show (em.mantissa % 2 != 0) = true ↔ ((em.mantissa / 2 : ℕ) : ℚ) + 1 / 2 ≤ x / 2
      rw [odd]
      exact iff_of_true (by decide) (by linarith)
    · show (em.roundBit || em.stickyBit) = true ↔
        x / 2 ≠ ((em.mantissa / 2 : ℕ) : ℚ) ∧ x / 2 ≠ ((em.mantissa / 2 : ℕ) : ℚ) + 1 / 2
      rw [rest]
      constructor
      · intro more
        exact ⟨fun same => by linarith, fun same => more (by linarith)⟩
      · rintro ⟨-, more⟩ same
        exact more (by linarith)

theorem Describes.shift (h : Describes em x) (k : ℕ) : Describes (em >>> k) (x / 2 ^ k) := by
  induction k with
  | zero =>
      rw [pow_zero, div_one]
      exact h
  | succ k ih =>
      rw [pow_succ, ← div_div]
      exact ih.shiftRightOne

/-- The rounded significand is at most a half away. -/
theorem Describes.near (h : Describes em x) : |(em.roundedMantissa : ℚ) - x| ≤ 1 / 2 := by
  obtain ⟨low, high, round, sticky⟩ := h
  obtain ⟨m, r, s⟩ := em
  dsimp only at low high round sticky
  rw [abs_le]
  cases r with
  | false =>
      have below : x < m + 1 / 2 := not_le.1 fun half => Bool.false_ne_true (round.2 half)
      have kept : ExtendedMantissa.roundedMantissa ⟨m, false, s⟩ = m := by cases s <;> rfl
      rw [kept]
      constructor <;> linarith
  | true =>
      have half := round.1 rfl
      cases s with
      | false =>
          have exactly : x = m + 1 / 2 := by
            by_contra more
            exact Bool.false_ne_true (sticky.2 ⟨by linarith, more⟩)
          have even : ExtendedMantissa.roundedMantissa ⟨m, true, false⟩ = m + m % 2 := rfl
          rw [even]
          rcases Nat.mod_two_eq_zero_or_one m with h | h <;> rw [h] <;> push_cast <;>
            constructor <;> linarith
      | true =>
          have up : ExtendedMantissa.roundedMantissa ⟨m, true, true⟩ = m + 1 := rfl
          rw [up]
          push_cast
          constructor <;> linarith

theorem describes_exact (m : ℕ) : Describes (.ofMantissaAndAccuracy m .exact) m where
  low := le_refl (m : ℚ)
  high := lt_add_one (m : ℚ)
  round := iff_of_false Bool.false_ne_true (by show ¬((m : ℚ) + 1 / 2 ≤ m); linarith)
  sticky := iff_of_false Bool.false_ne_true fun more => more.1 rfl

theorem describes_inexact (q : ℕ) {f : ℚ} (some : 0 < f) (part : f < 1) :
    Describes (.ofMantissaAndAccuracy q (.inexact (compare f (1 / 2)))) (q + f) := by
  have more : (q : ℚ) + f ≠ q := by linarith
  rcases lt_trichotomy f (1 / 2) with less | half | above
  · rw [compare_lt_iff_lt.2 less]
    constructor <;> dsimp only [ExtendedMantissa.ofMantissaAndAccuracy]
    · linarith
    · linarith
    · exact iff_of_false Bool.false_ne_true (by linarith)
    · exact iff_of_true rfl ⟨more, by linarith⟩
  · rw [compare_eq_iff_eq.2 half]
    constructor <;> dsimp only [ExtendedMantissa.ofMantissaAndAccuracy]
    · linarith
    · linarith
    · exact iff_of_true rfl (by linarith)
    · exact iff_of_false Bool.false_ne_true fun other => other.2 (by rw [half])
  · rw [compare_gt_iff_gt.2 above]
    constructor <;> dsimp only [ExtendedMantissa.ofMantissaAndAccuracy]
    · linarith
    · linarith
    · exact iff_of_true rfl (by linarith)
    · exact iff_of_true rfl ⟨more, by linarith⟩

/-- A quotient is described by its whole part and what is left over. -/
theorem describes_quotient (m : ℕ) {n : ℕ} (h : 0 < n) :
    Describes (.ofMantissaAndAccuracy (m / n) (accuracyOfFraction (m % n) n)) (m / n) := by
  have unit : (0 : ℚ) < n := by exact_mod_cast h
  have rest : ((m % n : ℕ) : ℚ) < n := by exact_mod_cast Nat.mod_lt m h
  have whole : (m : ℚ) / n = (m / n : ℕ) + (m % n : ℕ) / n := by
    rw [div_eq_iff unit.ne', add_mul, div_mul_cancel₀ _ unit.ne']
    exact_mod_cast (Nat.div_add_mod' m n).symm
  rw [whole, accuracyOfFraction]
  generalize m / n = q
  generalize m % n = r at rest
  by_cases none : r = 0
  · subst none
    rw [if_pos rfl, Nat.cast_zero, zero_div, add_zero]
    exact describes_exact q
  · have half (x y : ℚ) (order : x < y) : x / (2 * n) < y / (2 * n) :=
      div_lt_div_of_pos_right order (by linarith)
    have twice : ((2 * r : ℕ) : ℚ) / (2 * n) = r / n := by
      push_cast
      exact mul_div_mul_left _ _ two_ne_zero
    have one : (n : ℚ) / (2 * n) = 1 / 2 := by
      rw [div_eq_div_iff (by linarith) two_ne_zero]
      ring
    have compared : compare (2 * r) n = compare ((r : ℚ) / n) (1 / 2) := by
      rw [← twice, ← one]
      rcases lt_trichotomy (2 * r) n with less | same | more
      · rw [compare_lt_iff_lt.2 less, compare_lt_iff_lt.2 (half _ _ (by exact_mod_cast less))]
      · rw [compare_eq_iff_eq.2 same, compare_eq_iff_eq.2 (by rw [same])]
      · rw [compare_gt_iff_gt.2 more, compare_gt_iff_gt.2 (half _ _ (by exact_mod_cast more))]
    rw [if_neg none, compared]
    exact describes_inexact q (div_pos (by exact_mod_cast Nat.pos_of_ne_zero none) unit)
      ((div_lt_one unit).2 rest)

end

/-! ## Rounding -/

/-- A number of units of `2 ^ t`, rounded to a whole one: it has 53 places, of which the first is
taken unless the unit is the least one. -/
structure Rounding (x : ℚ) (r : ℕ) (t : ℤ) : Prop where
  least : -1074 ≤ t
  nonneg : 0 ≤ x
  near : |(r : ℚ) - x| ≤ 1 / 2
  below : x < 2 ^ 53
  full : 2 ^ 52 ≤ x ∨ t = -1074

theorem Rounding.le {x : ℚ} {r : ℕ} {t : ℤ} (h : Rounding x r t) : r ≤ 2 ^ 53 := by
  have near := (abs_le.1 h.near).2
  have below := h.below
  by_contra more
  have : (2 : ℚ) ^ 53 + 1 ≤ r := by exact_mod_cast not_le.1 more
  linarith

theorem Rounding.ge {x : ℚ} {r : ℕ} {t : ℤ} (h : Rounding x r t) (first : 2 ^ 52 ≤ x) :
    2 ^ 52 ≤ r := by
  have near := (abs_le.1 h.near).1
  by_contra less
  have : (r : ℚ) + 1 ≤ 2 ^ 52 := by exact_mod_cast not_le.1 less
  linarith

/-- The parts that a whole number of units is written as: of 54 places the last one is a zero. -/
def written (sign : Sign) (r : ℕ) (t : ℤ) : UnpackedFloat :=
  if h : r = 0 then .zero sign
  else if r < 2 ^ 53 then .finite sign r t (Nat.pos_of_ne_zero h)
  else .finite sign (2 ^ 52) (t + 1) (Nat.two_pow_pos 52)

/-- The exponent that the model aims at is the least one that leaves 53 places. -/
theorem targetExponent_eq (m : ℕ) (e : ℤ) :
    Format.binary64.targetExponent (totalExponent m e) = max (m.log2 + e - 52) (-1074) := by
  simp only [Format.targetExponent, totalExponent, mantissaBits_eq, Format.minExponent]
  congr 1
  push_cast
  ring

theorem shiftToTargetExponent_of_lt {r : ℕ} {t : ℤ} (h : r < 2 ^ 53) (least : -1074 ≤ t) :
    shiftToTargetExponent .binary64 r t .exact = (⟨r, false, false⟩, t) := by
  have target : Format.binary64.targetExponent (totalExponent r t) - t ≤ 0 := by
    rw [targetExponent_eq]
    have : r.log2 ≤ 52 := by
      rcases Nat.eq_zero_or_pos r with rfl | positive
      · decide
      · exact log2_le_of_lt positive h
    omega
  rw [shiftToTargetExponent, shiftToExponent, Int.toNat_of_nonpos target]
  exact Prod.ext rfl (add_zero t)

theorem shiftToTargetExponent_two_pow {t : ℤ} (least : -1074 ≤ t) :
    shiftToTargetExponent .binary64 (2 ^ 53) t .exact = (⟨2 ^ 52, false, false⟩, t + 1) := by
  have target : Format.binary64.targetExponent (totalExponent (2 ^ 53) t) = t + 1 := by
    rw [targetExponent_eq, Nat.log2_two_pow]
    omega
  rw [shiftToTargetExponent, target, shiftToExponent, add_sub_cancel_left]
  rfl

theorem mantissa_ofMantissaAndAccuracy (m : ℕ) (acc : Accuracy) :
    (ExtendedMantissa.ofMantissaAndAccuracy m acc).mantissa = m := by
  cases acc with
  | exact => rfl
  | inexact o => cases o <;> rfl

/-- Cut off at the least unit that leaves 53 places, a significand is rounded to one of them. -/
theorem Describes.rounding {m : ℕ} {e t : ℤ} {acc : Accuracy} {x : ℚ} {k : ℕ}
    (h : Describes (.ofMantissaAndAccuracy m acc) x) (moved : e + k = t)
    (target : t = max (m.log2 + e - 52) (-1074)) :
    Rounding (x / 2 ^ k)
      (ExtendedMantissa.ofMantissaAndAccuracy m acc >>> k).roundedMantissa t where
  least := by omega
  nonneg := div_nonneg ((Nat.cast_nonneg _).trans h.low) (by positivity)
  near := (h.shift k).near
  below := by
    have high := h.high
    rw [mantissa_ofMantissaAndAccuracy] at high
    have places : m + 1 ≤ 2 ^ (m.log2 + 1) := Nat.lt_log2_self
    have enough : 2 ^ (m.log2 + 1) ≤ 2 ^ (53 + k) := Nat.pow_le_pow_right two_pos (by omega)
    have bound : (m : ℚ) + 1 ≤ 2 ^ 53 * 2 ^ k := by
      rw [← pow_add]
      exact_mod_cast places.trans enough
    rw [div_lt_iff₀ (by positivity)]
    exact high.trans_le bound
  full := by
    by_cases capped : t = -1074
    · exact .inr capped
    · left
      have low := h.low
      rw [mantissa_ofMantissaAndAccuracy] at low
      have positive : m ≠ 0 := by
        rintro rfl
        have : (0 : ℕ).log2 = 0 := rfl
        omega
      have first : 2 ^ (52 + k) ≤ m := by
        rw [show 52 + k = m.log2 by omega]
        exact Nat.log2_self_le positive
      have bound : (2 : ℚ) ^ 52 * 2 ^ k ≤ m := by
        rw [← pow_add]
        exact_mod_cast first
      rw [le_div_iff₀ (by positivity)]
      exact bound.trans low

/-- **What the model rounds** a significand and an exponent to, given what the significand leaves
out. -/
theorem roundWithAccuracy_eq (sign : Sign) {m : ℕ} {e : ℤ} {acc : Accuracy} {x : ℚ}
    (h : Describes (.ofMantissaAndAccuracy m acc) x)
    (low : e ≤ Format.binary64.targetExponent (totalExponent m e)) :
    ∃ y r t, Rounding y r t ∧ y * 2 ^ t = x * 2 ^ e ∧
      roundWithAccuracy .binary64 sign m e acc = written sign r t := by
  obtain ⟨k, moved⟩ : ∃ k : ℕ, e + k = Format.binary64.targetExponent (totalExponent m e) :=
    ⟨(Format.binary64.targetExponent (totalExponent m e) - e).toNat, by omega⟩
  have rounding := h.rounding moved (targetExponent_eq m e)
  have first : shiftToTargetExponent .binary64 m e acc =
      (ExtendedMantissa.ofMantissaAndAccuracy m acc >>> k, e + k) := by
    rw [shiftToTargetExponent, shiftToExponent, ← moved, add_sub_cancel_left, Int.toNat_natCast]
  refine ⟨_, _, _, rounding, ?_, ?_⟩
  · rw [← moved, zpow_add₀ two_ne_zero, zpow_natCast]
    field_simp
  · rw [← moved] at rounding ⊢
    rw [roundWithAccuracy, first]
    dsimp only
    generalize (ExtendedMantissa.ofMantissaAndAccuracy m acc >>> k).roundedMantissa = r
      at rounding ⊢
    unfold written
    by_cases less : r < 2 ^ 53
    · rw [shiftToTargetExponent_of_lt less rounding.least]
      simp only [less, if_true]
    · have carry : r = 2 ^ 53 := le_antisymm rounding.le (not_lt.1 less)
      subst carry
      rw [shiftToTargetExponent_two_pow rounding.least]
      rfl

/-! ## What an operation makes of its exact result -/

/-- A fraction with a sign. -/
def signed (sign : Sign) (x : ℚ) : ℚ :=
  match sign with
  | .negative => -x
  | .positive => x

/-- A double is what a fraction is rounded to. -/
def Rounds (X : ℚ) (x : Float) : Prop :=
  ∃ sign y r t, Rounding y r t ∧ X = signed sign (y * 2 ^ t) ∧ x = ofParts (written sign r t)

theorem partsValue_finite (sign : Sign) (m : ℕ) (e : ℤ) (h : 0 < m) :
    partsValue (.finite sign m e h) = signed sign (m * 2 ^ e) := by
  cases sign with
  | positive => exact partsValue_positive m e h
  | negative => exact partsValue_negative m e h

theorem rounds_zero (sign : Sign) : Rounds 0 (ofParts (.zero sign)) := by
  refine ⟨sign, 0, 0, -1074, ⟨le_refl _, le_refl _, by norm_num, by norm_num, .inr rfl⟩, ?_, rfl⟩
  cases sign <;> simp [signed]

theorem rounds_ordinary {u : UnpackedFloat} (h : Ordinary u) :
    Rounds (partsValue u) (ofParts u) := by
  cases h with
  | zero sign => exact rounds_zero sign
  | finite sign m e h c =>
      have rounding : Rounding (m : ℚ) m e :=
        ⟨c.least, m.cast_nonneg, by norm_num, by exact_mod_cast c.lt,
          c.full.imp_left fun first => by exact_mod_cast first⟩
      refine ⟨sign, m, m, e, rounding, partsValue_finite sign m e h, ?_⟩
      rw [written, dif_neg h.ne', if_pos c.lt]

theorem rounds_roundWithAccuracy (sign : Sign) {m : ℕ} {e : ℤ} {acc : Accuracy} {x : ℚ}
    (h : Describes (.ofMantissaAndAccuracy m acc) x)
    (low : e ≤ Format.binary64.targetExponent (totalExponent m e)) :
    Rounds (signed sign (x * 2 ^ e)) (ofParts (roundWithAccuracy .binary64 sign m e acc)) := by
  obtain ⟨y, r, t, rounding, same, parts⟩ := roundWithAccuracy_eq sign h low
  exact ⟨sign, y, r, t, rounding, by rw [same], by rw [parts]⟩

theorem shiftLeft_scaled (m k : ℕ) (e : ℤ) : ((m <<< k : ℕ) : ℚ) * 2 ^ (e - k) = m * 2 ^ e := by
  rw [Nat.shiftLeft_eq, zpow_sub₀ two_ne_zero, zpow_natCast]
  push_cast
  field_simp

theorem log2_shiftLeft {m : ℕ} (h : 0 < m) (k : ℕ) : (m <<< k).log2 = m.log2 + k := by
  have positive : 0 < m * 2 ^ k := by positivity
  rw [Nat.shiftLeft_eq, Nat.log2_eq_iff positive.ne']
  constructor
  · rw [pow_add]
    exact Nat.mul_le_mul_right _ (Nat.log2_self_le h.ne')
  · rw [show m.log2 + k + 1 = m.log2 + 1 + k by omega, pow_add]
    exact Nat.mul_lt_mul_of_pos_right Nat.lt_log2_self (by positivity)

theorem rounds_round (sign : Sign) {m : ℕ} (h : 0 < m) (e : ℤ) :
    Rounds (signed sign (m * 2 ^ e)) (ofParts (UnpackedFloat.round .binary64 sign m e)) := by
  have target := targetExponent_eq m e
  rw [UnpackedFloat.round]
  dsimp only [UnpackedFloat.decreaseExponent]
  generalize hk : (e - Format.binary64.targetExponent (totalExponent m e)).toNat = k
  rw [← shiftLeft_scaled m k e]
  refine rounds_roundWithAccuracy sign (describes_exact _) ?_
  rw [targetExponent_eq, log2_shiftLeft h]
  omega

theorem rounds_normalize (n e : ℤ) (sign : Sign) :
    Rounds (n * 2 ^ e) (ofParts (.normalize .binary64 n e sign)) := by
  unfold UnpackedFloat.normalize
  rcases lt_trichotomy n 0 with negative | rfl | positive
  · have magnitude : (((-n).toNat : ℕ) : ℚ) = -n := by
      exact_mod_cast Int.toNat_of_nonneg (show 0 ≤ -n by omega)
    have rounds := rounds_round .negative (m := (-n).toNat) (by omega) e
    rw [magnitude, signed, neg_mul, neg_neg] at rounds
    rw [compare_lt_iff_lt.2 negative]
    exact rounds
  · rw [Int.cast_zero, zero_mul]
    exact rounds_zero sign
  · have magnitude : ((n.toNat : ℕ) : ℚ) = n := by exact_mod_cast Int.toNat_of_nonneg positive.le
    have rounds := rounds_round .positive (m := n.toNat) (by omega) e
    rw [magnitude] at rounds
    rw [compare_gt_iff_gt.2 positive]
    exact rounds

/-! ## The operations -/

section

variable {x y : Float}

theorem parts_cases (h : isFinite x = true) :
    (∃ sign, parts x = .zero sign ∧ value x = 0) ∨
      ∃ sign m e hm, parts x = .finite sign m e hm ∧ Canonical m e ∧
        value x = signed sign (m * 2 ^ e) := by
  have ordinary := ordinary_parts h
  unfold value
  cases hx : parts x with
  | zero sign => exact .inl ⟨sign, rfl, rfl⟩
  | finite sign m e hm =>
      exact .inr ⟨sign, m, e, hm, rfl, canonical_unpack hx, partsValue_finite sign m e hm⟩
  | infinity sign =>
      rw [hx] at ordinary
      cases ordinary
  | notANumber =>
      rw [hx] at ordinary
      cases ordinary

theorem rounds_value (h : isFinite x = true) : Rounds (value x) (ofParts (parts x)) :=
  rounds_ordinary (ordinary_parts h)

theorem signed_neg (sign : Sign) (x : ℚ) : signed (-sign) x = -signed sign x := by
  cases sign with
  | positive => rfl
  | negative => exact (neg_neg x).symm

theorem signed_apply (sign : Sign) (m : ℕ) (p : ℚ) :
    ((sign.apply m : ℤ) : ℚ) * p = signed sign (m * p) := by
  cases sign with
  | positive => simp [Sign.apply, signed]
  | negative => simp [Sign.apply, signed]

/-- Moved to a lower exponent, a significand stands for the same. -/
theorem decreased (sign : Sign) (m : ℕ) {e low : ℤ} (h : low ≤ e) :
    ((sign.apply (UnpackedFloat.decreaseExponent m e low).1 : ℤ) : ℚ) * 2 ^ low =
      signed sign (m * 2 ^ e) := by
  obtain ⟨k, rfl⟩ : ∃ k : ℕ, low = e - k := ⟨(e - low).toNat, by omega⟩
  rw [signed_apply, UnpackedFloat.decreaseExponent, sub_sub_cancel, Int.toNat_natCast,
    shiftLeft_scaled]

/-- A sum is rounded once. -/
theorem rounds_add (hx : isFinite x = true) (hy : isFinite y = true) :
    Rounds (value x + value y) (x + y) := by
  show Rounds _ (ofParts (UnpackedFloat.add .binary64 (parts x) (parts y)))
  have rx := rounds_value hx
  have ry := rounds_value hy
  rcases parts_cases hx with ⟨s, px, vx⟩ | ⟨s, m, e, hm, px, c, vx⟩ <;>
    rcases parts_cases hy with ⟨s', py, vy⟩ | ⟨s', m', e', hm', py, c', vy⟩ <;>
    rw [px, py]
  · rw [vx, vy, add_zero]
    unfold UnpackedFloat.add
    dsimp only
    split <;> exact rounds_zero _
  · rw [vx, zero_add]
    rw [py] at ry
    exact ry
  · rw [vy, add_zero]
    rw [px] at rx
    exact rx
  · rw [vx, vy, ← decreased s m (min_le_left e e'), ← decreased s' m' (min_le_right e e'),
      ← add_mul, ← Int.cast_add]
    exact rounds_normalize _ _ _

/-- A difference is rounded once. -/
theorem rounds_sub (hx : isFinite x = true) (hy : isFinite y = true) :
    Rounds (value x - value y) (x - y) := by
  show Rounds _ (ofParts (UnpackedFloat.sub .binary64 (parts x) (parts y)))
  have rx := rounds_value hx
  rcases parts_cases hx with ⟨s, px, vx⟩ | ⟨s, m, e, hm, px, c, vx⟩ <;>
    rcases parts_cases hy with ⟨s', py, vy⟩ | ⟨s', m', e', hm', py, c', vy⟩ <;>
    rw [px, py]
  · rw [vx, vy, sub_zero]
    unfold UnpackedFloat.sub
    dsimp only
    split <;> exact rounds_zero _
  · rw [vx, vy, zero_sub, ← signed_neg, ← partsValue_finite _ m' e' hm']
    exact rounds_ordinary (.finite _ _ _ _ c')
  · rw [vy, sub_zero]
    rw [px] at rx
    exact rx
  · rw [vx, vy, ← decreased s m (min_le_left e e'), ← decreased s' m' (min_le_right e e'),
      ← sub_mul, ← Int.cast_sub]
    exact rounds_normalize _ _ _

theorem signed_mul (s s' : Sign) (x y : ℚ) :
    signed (s * s') (x * y) = signed s x * signed s' y := by
  cases s <;> cases s'
  · exact (neg_mul_neg x y).symm
  · exact (neg_mul x y).symm
  · exact (mul_neg x y).symm
  · rfl

theorem signed_div (s s' : Sign) (x y : ℚ) :
    signed (s / s') (x / y) = signed s x / signed s' y := by
  cases s <;> cases s'
  · exact (neg_div_neg_eq x y).symm
  · exact (neg_div y x).symm
  · exact (div_neg x).symm
  · rfl

/-- A product is rounded once. -/
theorem rounds_mul (hx : isFinite x = true) (hy : isFinite y = true) :
    Rounds (value x * value y) (x * y) := by
  show Rounds _ (ofParts (UnpackedFloat.mul .binary64 (parts x) (parts y)))
  rcases parts_cases hx with ⟨s, px, vx⟩ | ⟨s, m, e, hm, px, c, vx⟩ <;>
    rcases parts_cases hy with ⟨s', py, vy⟩ | ⟨s', m', e', hm', py, c', vy⟩ <;>
    rw [px, py, vx, vy]
  · rw [zero_mul]
    exact rounds_zero _
  · rw [zero_mul]
    exact rounds_zero _
  · rw [mul_zero]
    exact rounds_zero _
  · have exact : (m * 2 ^ e * (m' * 2 ^ e') : ℚ) = (m * m' : ℕ) * 2 ^ (e + e') := by
      rw [zpow_add₀ two_ne_zero]
      push_cast
      ring
    rw [← signed_mul, exact]
    refine rounds_roundWithAccuracy _ (describes_exact _) ?_
    rw [targetExponent_eq]
    have least := c.least
    have least' := c'.least
    -- the product has 53 places, unless both exponents are the least one
    have places : 2 ^ 52 ≤ m * m' ∨ e = -1074 ∧ e' = -1074 := by
      rcases c.full with first | low
      · exact .inl (first.trans (Nat.le_mul_of_pos_right m hm'))
      · rcases c'.full with first | low'
        · exact .inl (first.trans (Nat.le_mul_of_pos_left m' hm))
        · exact .inr ⟨low, low'⟩
    rcases places with first | ⟨rfl, rfl⟩
    · have : 52 ≤ (m * m').log2 := (Nat.le_log2 (mul_pos hm hm').ne').2 first
      omega
    · omega

/-- A quotient is rounded once. -/
theorem rounds_div (hx : isFinite x = true) (hy : isFinite y = true) (some : value y ≠ 0) :
    Rounds (value x / value y) (x / y) := by
  show Rounds _ (ofParts (UnpackedFloat.div .binary64 (parts x) (parts y)))
  rcases parts_cases hy with ⟨s', py, vy⟩ | ⟨s', m', e', hm', py, c', vy⟩
  · exact absurd vy some
  rcases parts_cases hx with ⟨s, px, vx⟩ | ⟨s, m, e, hm, px, c, vx⟩ <;> rw [px, py, vx, vy]
  · rw [zero_div]
    exact rounds_zero _
  · dsimp only [UnpackedFloat.div, UnpackedFloat.divCore]
    generalize target : min (e - e') (Format.binary64.targetExponent
      (totalExponent m e - totalExponent m' e')) = low
    simp only [Format.targetExponent, totalExponent, mantissaBits_eq, Format.minExponent] at target
    obtain ⟨k, rfl⟩ : ∃ k : ℕ, low = e - e' - k := ⟨(e - e' - low).toNat, by omega⟩
    rw [sub_sub_cancel, Int.toNat_natCast]
    have exact : (m * 2 ^ e / (m' * 2 ^ e') : ℚ) = (m <<< k : ℕ) / m' * 2 ^ (e - e' - k) := by
      rw [div_mul_eq_mul_div, shiftLeft_scaled, zpow_sub₀ two_ne_zero]
      field_simp
    rw [← signed_div, exact]
    refine rounds_roundWithAccuracy _ (describes_quotient _ hm') ?_
    rw [targetExponent_eq]
    by_cases lowest : e - e' - k ≤ -1074
    · omega
    · -- the first significand was shifted until the quotient has 53 places
      have shifted := log2_shiftLeft hm k
      have first : 2 ^ 52 ≤ m <<< k / m' := by
        rw [Nat.le_div_iff_mul_le hm']
        calc 2 ^ 52 * m' ≤ 2 ^ 52 * 2 ^ (m'.log2 + 1) :=
              Nat.mul_le_mul_left _ Nat.lt_log2_self.le
          _ = 2 ^ (52 + (m'.log2 + 1)) := (pow_add _ _ _).symm
          _ ≤ 2 ^ (m <<< k).log2 := Nat.pow_le_pow_right two_pos (by omega)
          _ ≤ m <<< k := Nat.log2_self_le (by rw [Nat.shiftLeft_eq]; positivity)
      have : 52 ≤ (m <<< k / m').log2 := (Nat.le_log2 (by omega)).2 first
      omega

/-- A whole number is rounded once. -/
theorem rounds_toFloat (n : UInt64) : Rounds n.toNat n.toFloat := by
  have rounds := rounds_normalize n.toNat 0 .positive
  rw [zpow_zero, mul_one, Int.cast_natCast] at rounds
  exact rounds

end

end Double
end BoxSearch

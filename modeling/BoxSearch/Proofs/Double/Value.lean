import BoxSearch.Proofs.Energy.Distance
import Mathlib

/-!
# The exact values of doubles

A finite double stands for a fraction, its significand times a power of two.  Doubles are compared
by a rank that is read from significand and exponent; that this is the order of the fractions rests
on which significands and exponents a double can have.

* `canonical_unpack`, `unpack_pack` — what can be read from 64 bits, and that it is read back when
  it was written;
* `lt_iff_value`, `le_iff_value`, `beq_iff_value` — finite doubles compare as their values do;
* `isFinite_of_between` — what is between finite doubles is finite.
-/

namespace BoxSearch
namespace Double

open Float.Model (UnpackedFloat Format)
open Float.Model.UnpackedFloat (Sign packComponents unpackSign unpackExponent unpackMantissa
  unpackMantissa_packComponents unpackExponent_packComponents)

/-! ## Values -/

/-- The fraction that the parts of a double stand for; that of an infinity or a missing number
means nothing. -/
def partsValue : UnpackedFloat → ℚ
  | .finite sign m e _ => (sign.apply m : ℤ) * (2 : ℚ) ^ e
  | _ => 0

/-- The fraction that a finite double stands for. -/
def value (x : Float) : ℚ := partsValue (parts x)

/-- The significands and exponents that a double can have. -/
structure Canonical (m : ℕ) (e : ℤ) : Prop where
  /-- 53 bits -/
  lt : m < 2 ^ 53
  /-- the least exponent -/
  least : -1074 ≤ e
  /-- the largest exponent -/
  most : e ≤ 971
  /-- the first bit is there, unless the exponent is the least one -/
  full : 2 ^ 52 ≤ m ∨ e = -1074

section

variable {b : BitVec Format.binary64.numBits} {sign : Sign} {m : ℕ} {e : ℤ}

theorem toNat_unpackExponent_lt (b : BitVec Format.binary64.numBits) :
    (unpackExponent b).toNat < 2 ^ 11 := (unpackExponent b).isLt

theorem toNat_unpackMantissa_lt (b : BitVec Format.binary64.numBits) :
    (unpackMantissa b).toNat < 2 ^ 52 := (unpackMantissa b).isLt

/-- The implicit bit stands above the stored ones. -/
theorem toNat_implicit (v : BitVec 52) : (1#1 ++ v).toNat = 2 ^ 52 + v.toNat := by
  rw [BitVec.toNat_append, ← Nat.shiftLeft_add_eq_or_of_lt v.isLt]
  simp [Nat.shiftLeft_eq]

theorem exponentBias_eq : ((Format.binary64.exponentBias : ℕ) : ℤ) = 1023 := rfl

theorem mantissaBits_eq : Format.binary64.mantissaBits = 53 := rfl

theorem storedBits_eq : ((Format.binary64.mantissaBitsWithoutImplicit : ℕ) : ℤ) = 52 := rfl

theorem finite_congr {n : ℕ} {k : ℤ} {h : 0 < m} {h' : 0 < n} (significand : m = n)
    (exponent : e = k) : UnpackedFloat.finite sign m e h = .finite sign n k h' := by
  subst significand exponent
  rfl

/-- What is read from 64 bits is a significand and an exponent that a double can have. -/
theorem canonical_unpack {h : 0 < m} (hb : UnpackedFloat.unpack .binary64 b = .finite sign m e h) :
    Canonical m e := by
  have exponent := toNat_unpackExponent_lt b
  have mantissa := toNat_unpackMantissa_lt b
  unfold UnpackedFloat.unpack at hb
  dsimp only at hb
  split at hb
  · split at hb <;> cases hb
  · next ordinary =>
    have notOnes : (unpackExponent b).toNat ≠ 2 ^ 11 - 1 := fun ones =>
      ordinary (BitVec.toNat_inj.1 (by simpa using ones))
    split at hb
    · next least =>
      have zero : (unpackExponent b).toNat = 0 := by rw [least]; rfl
      split at hb
      · cases hb
      · injection hb with _ hm he
        rw [zero, exponentBias_eq, storedBits_eq] at he
        exact ⟨by omega, by omega, by omega, .inr (by omega)⟩
    · next normal =>
      have notZero : (unpackExponent b).toNat ≠ 0 := fun zero =>
        normal (BitVec.toNat_inj.1 (by simpa using zero))
      injection hb with _ hm he
      rw [exponentBias_eq, storedBits_eq] at he
      rw [toNat_implicit] at hm
      exact ⟨by omega, by omega, by omega, .inl (by omega)⟩

theorem unpack_normal {k : ℕ} (h : 0 < m) (positive : 0 < k) (lt : k < 2047) (first : 2 ^ 52 ≤ m)
    (last : m < 2 ^ 53) :
    UnpackedFloat.unpack .binary64
      (packComponents .binary64 sign (BitVec.ofNat 11 k) (BitVec.ofNat 52 m)) =
      .finite sign m (k - 1075) h := by
  have exponent : (BitVec.ofNat 11 k).toNat = k := by
    rw [BitVec.toNat_ofNat, Nat.mod_eq_of_lt (by omega)]
  have notOnes : BitVec.ofNat 11 k ≠ -1#11 := fun ones => by
    have := congrArg BitVec.toNat ones
    rw [exponent] at this
    simp at this
    omega
  have notZero : BitVec.ofNat 11 k ≠ 0#11 := fun zero => by
    have := congrArg BitVec.toNat zero
    rw [exponent] at this
    exact positive.ne' this
  have significand : (1#1 ++ BitVec.ofNat 52 m).toNat = m := by
    rw [toNat_implicit, BitVec.toNat_ofNat]
    omega
  unfold UnpackedFloat.unpack
  simp only [unpackMantissa_packComponents, unpackExponent_packComponents,
    unpackSign_packComponents]
  rw [if_neg notOnes, if_neg notZero]
  refine finite_congr significand ?_
  rw [exponent, exponentBias_eq]
  rfl

theorem unpack_subnormal (h : 0 < m) (below : m < 2 ^ 52) :
    UnpackedFloat.unpack .binary64 (packComponents .binary64 sign 0#11 (BitVec.ofNat 52 m)) =
      .finite sign m (-1074) h := by
  have significand : (BitVec.ofNat 52 m).toNat = m := by
    rw [BitVec.toNat_ofNat, Nat.mod_eq_of_lt below]
  have notZero : BitVec.ofNat 52 m ≠ 0#52 := fun zero => by
    have := congrArg BitVec.toNat zero
    rw [significand] at this
    exact h.ne' this
  unfold UnpackedFloat.unpack
  simp only [unpackMantissa_packComponents, unpackExponent_packComponents,
    unpackSign_packComponents]
  rw [if_neg (by decide), if_pos trivial, dif_neg notZero]
  exact finite_congr significand rfl

/-- A significand and an exponent that a double can have are read as they were written. -/
theorem unpack_pack (h : 0 < m) (c : Canonical m e) :
    UnpackedFloat.unpack .binary64 (UnpackedFloat.pack .binary64 (.finite sign m e h)) =
      .finite sign m e h := by
  obtain ⟨lt, least, most, full⟩ := c
  obtain ⟨k, biased⟩ : ∃ k : ℕ, (k : ℤ) = e + 1075 := ⟨(e + 1075).toNat, by omega⟩
  have stored : (e + (Format.binary64.exponentBias : ℤ) +
      (Format.binary64.mantissaBitsWithoutImplicit : ℤ)).toNat = k := by
    rw [exponentBias_eq, storedBits_eq]
    omega
  have exponent : (k : ℤ) - 1075 = e := by omega
  unfold UnpackedFloat.pack
  simp only [stored, mantissaBits_eq]
  rw [if_neg (by omega)]
  split
  · have first : 2 ^ 52 ≤ m := (Nat.le_log2 h.ne').1 (by omega)
    rw [unpack_normal h (by omega) (by omega) first lt, exponent]
  · next subnormal =>
    have below : m < 2 ^ 52 := by
      by_contra above
      have log : m.log2 = 52 := (Nat.log2_eq_iff h.ne').2 ⟨not_lt.1 above, lt⟩
      omega
    rw [unpack_subnormal h below, full.resolve_left (not_le.2 below)]

end

/-! ## Finite doubles -/

/-- The parts that a finite double can have. -/
inductive Ordinary : UnpackedFloat → Prop
  /-- a zero -/
  | zero (sign : Sign) : Ordinary (.zero sign)
  /-- a significand with an exponent -/
  | finite (sign : Sign) (m : ℕ) (e : ℤ) (h : 0 < m) (c : Canonical m e) :
      Ordinary (.finite sign m e h)

variable {x y : Float} {u v : UnpackedFloat}

theorem ordinary_parts (h : isFinite x = true) : Ordinary (parts x) := by
  unfold isFinite at h
  cases hx : parts x with
  | zero sign => exact .zero sign
  | finite sign m e hm => exact .finite sign m e hm (canonical_unpack hx)
  | infinity sign =>
      rw [hx] at h
      cases h
  | notANumber =>
      rw [hx] at h
      cases h

theorem isFinite_of_parts (h : Ordinary (parts x)) : isFinite x = true := by
  unfold isFinite
  generalize parts x = u at h
  cases h <;> rfl

/-- The parts of a finite double are read as they were written. -/
theorem parts_ofParts (h : Ordinary u) : parts (ofParts u) = u := by
  cases h with
  | zero sign => cases sign <;> rfl
  | finite sign m e h c => exact unpack_pack h c

theorem isNaN_of_isFinite (h : isFinite x = true) : x.isNaN = false := by
  rw [isNaN_eq_false_iff]
  have ordinary := ordinary_parts h
  generalize parts x = u at ordinary
  cases ordinary <;> exact nofun

/-! ## The order of values -/

/-- Of two significands with exponents the one with the larger exponent stands for more, and of
two with one exponent the larger one. -/
theorem scaled_lt {m n : ℕ} {e k : ℤ} (c : Canonical m e) (c' : Canonical n k)
    (h : e < k ∨ e = k ∧ m < n) : (m : ℚ) * 2 ^ e < n * 2 ^ k := by
  rcases h with above | ⟨rfl, above⟩
  · have first : (2 : ℚ) ^ 52 ≤ n := by
      exact_mod_cast c'.full.resolve_right (by have := c.least; omega)
    have last : (m : ℚ) < 2 ^ 53 := by exact_mod_cast c.lt
    have scale : (0 : ℚ) < 2 ^ e := by positivity
    have higher : (2 : ℚ) ^ (e + 1) ≤ 2 ^ k := zpow_le_zpow_right₀ one_le_two (by omega)
    calc (m : ℚ) * 2 ^ e < 2 ^ 53 * 2 ^ e := mul_lt_mul_of_pos_right last scale
      _ = 2 ^ 52 * 2 ^ (e + 1) := by rw [zpow_add_one₀ two_ne_zero]; ring
      _ ≤ n * 2 ^ k := mul_le_mul first higher (by positivity) (by positivity)
  · have more : (m : ℚ) < n := by exact_mod_cast above
    exact mul_lt_mul_of_pos_right more (by positivity)

theorem scaled_pos {m : ℕ} (e : ℤ) (h : 0 < m) : (0 : ℚ) < m * 2 ^ e := by positivity

theorem partsValue_positive (m : ℕ) (e : ℤ) (h : 0 < m) :
    partsValue (.finite .positive m e h) = m * 2 ^ e := by
  simp only [partsValue, Sign.apply, Int.cast_natCast]

theorem partsValue_negative (m : ℕ) (e : ℤ) (h : 0 < m) :
    partsValue (.finite .negative m e h) = -(m * 2 ^ e) := by
  simp only [partsValue, Sign.apply, Int.cast_neg, Int.cast_natCast, neg_mul]

/-- The order of the ranks is that of the values. -/
theorem partsValue_lt (hu : Ordinary u) (hv : Ordinary v) (h : partsRank u < partsRank v) :
    partsValue u < partsValue v := by
  cases hu with
  | zero s =>
      cases hv with
      | zero t => exact absurd h (by simp [partsRank])
      | finite t n k hn c' =>
          cases t with
          | negative => exact absurd h (by simp [partsRank, Prod.Lex.toLex_lt_toLex])
          | positive =>
              rw [partsValue_positive]
              exact scaled_pos k hn
  | finite s m e hm c =>
      cases s with
      | negative =>
          rw [partsValue_negative]
          have below := scaled_pos e hm
          cases hv with
          | zero t => exact neg_lt_zero.2 below
          | finite t n k hn c' =>
              cases t with
              | negative =>
                  rw [partsValue_negative]
                  have order : k < e ∨ e = k ∧ n < m := by
                    simpa [partsRank, Prod.Lex.toLex_lt_toLex] using h
                  exact neg_lt_neg (scaled_lt c' c (order.imp_right (And.imp_left Eq.symm)))
              | positive =>
                  rw [partsValue_positive]
                  exact (neg_lt_zero.2 below).trans (scaled_pos k hn)
      | positive =>
          cases hv with
          | zero t => exact absurd h (by simp [partsRank, Prod.Lex.toLex_lt_toLex])
          | finite t n k hn c' =>
              cases t with
              | negative => exact absurd h (by simp [partsRank, Prod.Lex.toLex_lt_toLex])
              | positive =>
                  rw [partsValue_positive, partsValue_positive]
                  refine scaled_lt c c' ?_
                  simpa [partsRank, Prod.Lex.toLex_lt_toLex] using h

/-- Parts of one rank stand for one fraction. -/
theorem partsValue_eq (hu : Ordinary u) (hv : Ordinary v) (h : partsRank u = partsRank v) :
    partsValue u = partsValue v := by
  cases hu with
  | zero s =>
      cases hv with
      | zero t => rfl
      | finite t n k hn c' => cases t <;> simp [partsRank] at h
  | finite s m e hm c =>
      cases hv with
      | zero t => cases s <;> simp [partsRank] at h
      | finite t n k hn c' =>
          cases s <;> cases t <;> simp [partsRank] at h
          · obtain ⟨rfl, rfl⟩ := h
            rfl
          · obtain ⟨rfl, rfl⟩ := h
            rfl

/-- **Finite doubles are compared by their values.** -/
theorem lt_iff_value (hx : isFinite x = true) (hy : isFinite y = true) :
    x < y ↔ value x < value y := by
  rw [lt_iff, isNaN_of_isFinite hx, isNaN_of_isFinite hy]
  simp only [true_and]
  constructor
  · exact partsValue_lt (ordinary_parts hx) (ordinary_parts hy)
  · intro lt
    rcases lt_trichotomy (rank x) (rank y) with below | same | above
    · exact below
    · exact absurd (partsValue_eq (ordinary_parts hx) (ordinary_parts hy) same) lt.ne
    · exact absurd (partsValue_lt (ordinary_parts hy) (ordinary_parts hx) above) lt.not_gt

theorem le_iff_value (hx : isFinite x = true) (hy : isFinite y = true) :
    x ≤ y ↔ value x ≤ value y := by
  rw [← not_lt_iff (isNaN_of_isFinite hy) (isNaN_of_isFinite hx), lt_iff_value hy hx, not_lt]

theorem beq_iff_value (hx : isFinite x = true) (hy : isFinite y = true) :
    (x == y) = true ↔ value x = value y := by
  rw [beq_iff_le_and_le, le_iff_value hx hy, le_iff_value hy hx, le_antisymm_iff]

/-- What lies between finite doubles is finite. -/
theorem isFinite_of_between {a b : Float} (ha : isFinite a = true) (hb : isFinite b = true)
    (h : a ≤ x) (h' : x ≤ b) : isFinite x = true := by
  have low := (le_iff.1 h).2.2
  have high := (le_iff.1 h').2.2
  have number := isNaN_eq_false_iff.1 (le_iff.1 h).2.1
  have below := ordinary_parts ha
  have above := ordinary_parts hb
  unfold rank at low high
  unfold isFinite
  generalize parts a = u at low below
  generalize parts b = v at high above
  cases hx : parts x with
  | zero sign => rfl
  | finite sign m e hm => rfl
  | notANumber => exact absurd hx number
  | infinity sign =>
      rw [hx] at low high
      cases sign with
      | negative =>
          cases below with
          | zero sign => simp [partsRank, Prod.Lex.toLex_le_toLex] at low
          | finite sign m e hm c => cases sign <;> simp [partsRank, Prod.Lex.toLex_le_toLex] at low
      | positive =>
          cases above with
          | zero sign => simp [partsRank, Prod.Lex.toLex_le_toLex] at high
          | finite sign m e hm c => cases sign <;> simp [partsRank, Prod.Lex.toLex_le_toLex] at high

end Double
end BoxSearch

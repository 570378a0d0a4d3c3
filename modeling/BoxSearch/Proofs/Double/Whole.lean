import BoxSearch.Proofs.Double.Value

/-!
# Doubles brought to whole numbers

Floor, ceiling and rounding of a double are taken on its significand, and the result is written as
a double again.  Nothing is lost: a number with a fractional part has fewer than 53 bits before it,
and a number without one is left as it is.

* `toWhole_toWhole` — a number that was brought to a whole one is left as it is, bit for bit;
* `value_toWhole` — the value is the floor, the ceiling or the nearest whole number of the value;
* `abs_value_round_sub_le` — rounding moves a number by at most a half.
-/

namespace BoxSearch
namespace Double

open Float.Model (UnpackedFloat Format totalExponent)
open Float.Model.UnpackedFloat (Sign shiftToTargetExponent shiftToExponent ExtendedMantissa)

/-! ## Whole numbers as doubles -/

/-- By how many places a whole number is moved to fill the significand. -/
def headroom (n : ℕ) : ℕ := 52 - n.log2

theorem log2_le_of_lt {n : ℕ} (h : 0 < n) (lt : n < 2 ^ 53) : n.log2 ≤ 52 := by
  have := (Nat.log2_lt h.ne').2 lt
  omega

theorem log2_filled {n : ℕ} (h : 0 < n) (lt : n < 2 ^ 53) : (n * 2 ^ headroom n).log2 = 52 := by
  have most := log2_le_of_lt h lt
  have places : n.log2 + headroom n = 52 := Nat.add_sub_of_le most
  rw [Nat.log2_eq_iff (by positivity)]
  constructor
  · rw [← places, pow_add]
    exact Nat.mul_le_mul_right _ (Nat.log2_self_le h.ne')
  · rw [show 52 + 1 = n.log2 + 1 + headroom n by omega, pow_add]
    exact Nat.mul_lt_mul_of_pos_right Nat.lt_log2_self (by positivity)

theorem filled_pos {n : ℕ} (h : 0 < n) : 0 < n * 2 ^ headroom n := by positivity

theorem filled_lt {n : ℕ} (h : 0 < n) (lt : n < 2 ^ 53) :
    2 ^ 52 ≤ n * 2 ^ headroom n ∧ n * 2 ^ headroom n < 2 ^ 53 :=
  (Nat.log2_eq_iff (by positivity)).1 (log2_filled h lt)

/-- A significand that fills its places stays where it is. -/
theorem shift_filled {m j : ℕ} (h : m.log2 = 52) (places : j ≤ 52) :
    shiftToTargetExponent .binary64 m (-(j : ℤ)) .exact = (⟨m, false, false⟩, -(j : ℤ)) := by
  have target : Format.binary64.targetExponent (totalExponent m (-(j : ℤ))) = -(j : ℤ) := by
    simp only [Format.targetExponent, totalExponent, mantissaBits_eq, Format.minExponent, h]
    omega
  rw [shiftToTargetExponent, target, shiftToExponent]
  have none : (-(j : ℤ) - -(j : ℤ)).toNat = 0 := by omega
  simp only [none, Nat.cast_zero, add_zero]
  rfl

theorem round_whole (sign : Sign) {n : ℕ} (h : 0 < n) (lt : n < 2 ^ 53) :
    UnpackedFloat.round .binary64 sign n 0 =
      .finite sign (n * 2 ^ headroom n) (-(headroom n : ℤ)) (filled_pos h) := by
  have places : headroom n ≤ 52 := Nat.sub_le _ _
  have most := log2_le_of_lt h lt
  have target : Format.binary64.targetExponent (totalExponent n 0) = -(headroom n : ℤ) := by
    simp only [Format.targetExponent, totalExponent, mantissaBits_eq, Format.minExponent,
      headroom]
    omega
  have moved : (0 - -(headroom n : ℤ)).toNat = headroom n := by omega
  have shifted := shift_filled (log2_filled h lt) places
  rw [UnpackedFloat.round]
  simp only [target, UnpackedFloat.decreaseExponent, moved]
  rw [zero_sub, Nat.shiftLeft_eq, UnpackedFloat.roundWithAccuracy]
  simp only [shifted]
  have kept : (ExtendedMantissa.mk (n * 2 ^ headroom n) false false).roundedMantissa =
      n * 2 ^ headroom n := rfl
  simp only [kept, shifted]
  rw [dif_neg (filled_pos h).ne']

/-- A whole number of 53 bits is a double. -/
theorem ordinary_whole (sign : Sign) {n : ℕ} (h : 0 < n) (lt : n < 2 ^ 53) :
    Ordinary (.finite sign (n * 2 ^ headroom n) (-(headroom n : ℤ)) (filled_pos h)) := by
  have places : headroom n ≤ 52 := Nat.sub_le _ _
  obtain ⟨full, below⟩ := filled_lt h lt
  exact .finite _ _ _ _ ⟨below, by omega, by omega, .inl full⟩

theorem parts_nearest (sign : Sign) {n : ℕ} (h : 0 < n) (lt : n < 2 ^ 53) :
    parts (nearest sign n 0) =
      .finite sign (n * 2 ^ headroom n) (-(headroom n : ℤ)) (filled_pos h) := by
  rw [nearest, if_neg h.ne', round_whole sign h lt, parts_ofParts (ordinary_whole sign h lt)]

theorem parts_nearest_zero (sign : Sign) : parts (nearest sign 0 0) = .zero sign :=
  parts_ofParts (.zero sign)

theorem isFinite_nearest (sign : Sign) {n : ℕ} (lt : n < 2 ^ 53) :
    isFinite (nearest sign n 0) = true := by
  apply isFinite_of_parts
  rcases Nat.eq_zero_or_pos n with rfl | h
  · rw [parts_nearest_zero]
    exact .zero sign
  · rw [parts_nearest sign h lt]
    exact ordinary_whole sign h lt

/-- The double nearest to a whole number of 53 bits is that number. -/
theorem value_nearest (sign : Sign) {n : ℕ} (lt : n < 2 ^ 53) :
    value (nearest sign n 0) = (sign.apply n : ℤ) := by
  unfold value
  rcases Nat.eq_zero_or_pos n with rfl | h
  · rw [parts_nearest_zero]
    cases sign <;> rfl
  · have scaled : ((n * 2 ^ headroom n : ℕ) : ℚ) * 2 ^ (-(headroom n : ℤ)) = n := by
      rw [zpow_neg, zpow_natCast]
      push_cast
      field_simp
    rw [parts_nearest sign h lt]
    cases sign with
    | positive => rw [partsValue_positive, scaled, Sign.apply, Int.cast_natCast]
    | negative => rw [partsValue_negative, scaled, Sign.apply, Int.cast_neg, Int.cast_natCast]

/-! ## Brought to a whole number twice -/

/-- A whole number of units is that whole number. -/
theorem wholeMagnitude_mul (d : Direction) (sign : Sign) (n k : ℕ) :
    wholeMagnitude d sign (n * 2 ^ k) k = n := by
  have positive : 0 < 2 ^ k := by positivity
  have quotient : n * 2 ^ k / Nat.pow 2 k = n := Nat.mul_div_cancel n positive
  have exact' : n * 2 ^ k % Nat.pow 2 k = 0 := Nat.mul_mod_left n _
  have rounded : (2 * (n * 2 ^ k) + Nat.pow 2 k) / Nat.pow 2 (k + 1) = n := by
    show (2 * (n * 2 ^ k) + 2 ^ k) / 2 ^ (k + 1) = n
    rw [pow_succ]
    refine Nat.div_eq_of_lt_le ?_ ?_ <;> nlinarith
  unfold wholeMagnitude
  simp only [quotient, exact', if_true, rounded]
  cases d <;> cases sign <;> rfl

/-- A fraction of 53 bits is brought to a whole number of 53 bits. -/
theorem wholeMagnitude_lt (d : Direction) (sign : Sign) {m k : ℕ} (lt : m < 2 ^ 53)
    (h : 0 < k) : wholeMagnitude d sign m k < 2 ^ 53 := by
  have two : 2 ≤ 2 ^ k := by
    calc 2 = 2 ^ 1 := rfl
      _ ≤ 2 ^ k := Nat.pow_le_pow_right two_pos h
  have quotient : m / Nat.pow 2 k ≤ m / 2 := Nat.div_le_div_left two two_pos
  have rounded : (2 * m + Nat.pow 2 k) / Nat.pow 2 (k + 1) ≤ m / 2 + 1 := by
    show (2 * m + 2 ^ k) / 2 ^ (k + 1) ≤ m / 2 + 1
    rw [pow_succ]
    refine Nat.div_le_of_le_mul ?_
    have half := Nat.mul_le_mul_right (m / 2) two
    calc 2 * m + 2 ^ k ≤ 2 * (2 * (m / 2)) + 2 * 2 ^ k := by omega
      _ ≤ 2 * (2 ^ k * (m / 2)) + 2 * 2 ^ k := by omega
      _ = 2 ^ k * 2 * (m / 2 + 1) := by ring
  unfold wholeMagnitude
  cases d <;> cases sign <;> dsimp only
  all_goals
    first
    | omega
    | split <;> omega

variable {x : Float}

theorem toWhole_nearest (d : Direction) (sign : Sign) {n : ℕ} (lt : n < 2 ^ 53) :
    toWhole d (nearest sign n 0) = nearest sign n 0 := by
  unfold toWhole
  rcases Nat.eq_zero_or_pos n with rfl | h
  · rw [parts_nearest_zero]
  · rw [parts_nearest sign h lt]
    dsimp only
    split
    · rfl
    · rw [neg_neg, Int.toNat_natCast, wholeMagnitude_mul]

/-- **What was brought to a whole number stays as it is**, bit for bit. -/
theorem toWhole_toWhole (d d' : Direction) (x : Float) :
    toWhole d (toWhole d' x) = toWhole d' x := by
  cases hx : parts x with
  | finite sign m e h =>
      have c := canonical_unpack hx
      by_cases whole : 0 ≤ e
      · simp only [toWhole, hx, if_pos whole]
      · have fraction : toWhole d' x =
            nearest sign (wholeMagnitude d' sign m (-e).toNat) 0 := by
          simp only [toWhole, hx, if_neg whole]
        rw [fraction, toWhole_nearest d sign (wholeMagnitude_lt d' sign c.lt (by omega))]
  | zero sign => simp only [toWhole, hx]
  | infinity sign => simp only [toWhole, hx]
  | notANumber => simp only [toWhole, hx]

/-! ## The whole numbers of fractions -/

/-- The whole number to which a fraction is brought. -/
def wholeOf : Direction → ℚ → ℤ
  | .down, q => ⌊q⌋
  | .up, q => ⌈q⌉
  | .halfAway, q => if q < 0 then ⌈q - 1 / 2⌉ else ⌊q + 1 / 2⌋

theorem wholeOf_intCast (d : Direction) (z : ℤ) : wholeOf d z = z := by
  have below : ⌊(z : ℚ) + 1 / 2⌋ = z := by
    rw [Int.floor_eq_iff]
    constructor <;> linarith
  have above : ⌈(z : ℚ) - 1 / 2⌉ = z := by
    rw [Int.ceil_eq_iff]
    constructor <;> linarith
  cases d with
  | down => exact Int.floor_intCast z
  | up => exact Int.ceil_intCast z
  | halfAway =>
      rw [wholeOf]
      split
      · exact above
      · exact below

theorem wholeOf_mono (d : Direction) {p q : ℚ} (h : p ≤ q) : wholeOf d p ≤ wholeOf d q := by
  cases d with
  | down => exact Int.floor_mono h
  | up => exact Int.ceil_mono h
  | halfAway =>
      rw [wholeOf, wholeOf]
      by_cases positive : 0 ≤ p
      · rw [if_neg (not_lt.2 positive), if_neg (not_lt.2 (positive.trans h))]
        exact Int.floor_mono (by linarith)
      · rw [if_pos (not_le.1 positive)]
        split
        · exact Int.ceil_mono (by linarith)
        · next other =>
          have low : ⌈p - 1 / 2⌉ ≤ 0 := Int.ceil_le.2 (by push_cast; linarith)
          have high : 0 ≤ ⌊q + 1 / 2⌋ := Int.floor_nonneg.2 (by linarith)
          exact low.trans high

/-- The nearest whole number is at most a half away. -/
theorem abs_wholeOf_sub_le (q : ℚ) : |(wholeOf .halfAway q : ℚ) - q| ≤ 1 / 2 := by
  rw [wholeOf, abs_le]
  split
  · have low := Int.le_ceil (q - 1 / 2)
    have high := Int.ceil_lt_add_one (q - 1 / 2)
    constructor <;> linarith
  · have low := Int.floor_le (q + 1 / 2)
    have high := Int.lt_floor_add_one (q + 1 / 2)
    constructor <;> linarith

/-- A quotient of natural numbers, brought up to a whole number. -/
theorem ceil_natCast_div (m : ℕ) {p : ℕ} (h : 0 < p) :
    ((if m % p = 0 then m / p else m / p + 1 : ℕ) : ℤ) = ⌈(m : ℚ) / p⌉ := by
  have unit : (0 : ℚ) < p := by exact_mod_cast h
  have parts : (m : ℚ) = p * (m / p : ℕ) + (m % p : ℕ) := by
    exact_mod_cast (Nat.div_add_mod m p).symm
  have rest : ((m % p : ℕ) : ℚ) < p := by exact_mod_cast Nat.mod_lt m h
  generalize m / p = q at parts ⊢
  generalize m % p = r at parts rest ⊢
  rw [eq_comm, Int.ceil_eq_iff, lt_div_iff₀ unit, div_le_iff₀ unit, parts]
  split
  · next none =>
    rw [none]
    push_cast
    constructor <;> nlinarith
  · next some =>
    have positive : (0 : ℚ) < r := by exact_mod_cast Nat.pos_of_ne_zero some
    push_cast
    constructor <;> nlinarith

/-- The magnitude of a fraction is brought to the whole number to which the fraction is. -/
theorem wholeMagnitude_eq (d : Direction) (sign : Sign) {m : ℕ} (h : 0 < m) (k : ℕ) :
    sign.apply (wholeMagnitude d sign m k) = wholeOf d ((sign.apply m : ℤ) / 2 ^ k) := by
  have positive : (0 : ℚ) < m / 2 ^ k := by positivity
  have units : ((2 ^ k : ℕ) : ℚ) = 2 ^ k := by
    push_cast
    rfl
  -- the two neighbours of the magnitude, and the nearest of them
  have below : ((m / Nat.pow 2 k : ℕ) : ℤ) = ⌊(m : ℚ) / 2 ^ k⌋ := by
    rw [← units, Rat.floor_natCast_div_natCast]
    rfl
  have above : ((if m % Nat.pow 2 k = 0 then m / Nat.pow 2 k else m / Nat.pow 2 k + 1 : ℕ) : ℤ) =
      ⌈(m : ℚ) / 2 ^ k⌉ := by
    rw [← units]
    exact ceil_natCast_div m (show 0 < 2 ^ k by positivity)
  have nearest : (((2 * m + Nat.pow 2 k) / Nat.pow 2 (k + 1) : ℕ) : ℤ) =
      ⌊(m : ℚ) / 2 ^ k + 1 / 2⌋ := by
    have half : (m : ℚ) / 2 ^ k + 1 / 2 = ((2 * m + 2 ^ k : ℕ) : ℚ) / ((2 ^ (k + 1) : ℕ) : ℚ) := by
      push_cast
      rw [pow_succ]
      field_simp
    rw [half, Rat.floor_natCast_div_natCast]
    push_cast
    rfl
  cases sign with
  | positive =>
      have number : (((Sign.positive.apply m : ℤ) : ℚ)) / 2 ^ k = m / 2 ^ k := by
        rw [Sign.apply, Int.cast_natCast]
      rw [number]
      cases d with
      | down => exact below
      | up => exact above
      | halfAway =>
          rw [wholeOf, if_neg positive.not_gt]
          exact nearest
  | negative =>
      have number : (((Sign.negative.apply m : ℤ) : ℚ)) / 2 ^ k = -(m / 2 ^ k) := by
        rw [Sign.apply, Int.cast_neg, Int.cast_natCast, neg_div]
      rw [number]
      cases d with
      | down =>
          rw [wholeOf, Int.floor_neg]
          exact congrArg Neg.neg above
      | up =>
          rw [wholeOf, Int.ceil_neg]
          exact congrArg Neg.neg below
      | halfAway =>
          rw [wholeOf, if_pos (neg_lt_zero.2 positive), ← neg_add', Int.ceil_neg]
          exact congrArg Neg.neg nearest

/-! ## The values of whole doubles -/

theorem isFinite_toWhole (d : Direction) (x : Float) : isFinite (toWhole d x) = isFinite x := by
  unfold toWhole
  cases hx : parts x with
  | finite sign m e h =>
      dsimp only
      split
      · rfl
      · next fraction =>
        have c := canonical_unpack hx
        rw [isFinite_nearest sign (wholeMagnitude_lt d sign c.lt (by omega))]
        simp only [isFinite, hx]
  | zero sign => rfl
  | infinity sign => rfl
  | notANumber => rfl

/-- **The value of a double brought to a whole number** is the whole number to which its value is
brought. -/
theorem value_toWhole (d : Direction) (h : isFinite x = true) :
    value (toWhole d x) = wholeOf d (value x) := by
  cases hx : parts x with
  | finite sign m e hm =>
      have c := canonical_unpack hx
      have number : value x = (sign.apply m : ℤ) * (2 : ℚ) ^ e := by rw [value, hx, partsValue]
      by_cases whole : 0 ≤ e
      · have same : toWhole d x = x := by simp only [toWhole, hx, if_pos whole]
        obtain ⟨k, rfl⟩ := Int.eq_ofNat_of_zero_le whole
        have integer : value x = ((sign.apply m * 2 ^ k : ℤ) : ℚ) := by
          rw [number]
          push_cast
          rw [zpow_natCast]
        rw [same, integer, wholeOf_intCast]
      · have fraction : toWhole d x = nearest sign (wholeMagnitude d sign m (-e).toNat) 0 := by
          simp only [toWhole, hx, if_neg whole]
        have scaled : value x = (sign.apply m : ℤ) / 2 ^ (-e).toNat := by
          have exponent : e = -((-e).toNat : ℤ) := by omega
          rw [number, div_eq_mul_inv, ← zpow_natCast, ← zpow_neg, ← exponent]
        rw [fraction, value_nearest sign (wholeMagnitude_lt d sign c.lt (by omega)), scaled,
          wholeMagnitude_eq d sign hm]
  | zero sign =>
      have same : toWhole d x = x := by simp only [toWhole, hx]
      have zero : value x = ((0 : ℤ) : ℚ) := by rw [value, hx]; rfl
      rw [same, zero, wholeOf_intCast]
  | infinity sign =>
      rw [isFinite, hx] at h
      cases h
  | notANumber =>
      rw [isFinite, hx] at h
      cases h

theorem isNaN_toWhole (d : Direction) (x : Float) : (toWhole d x).isNaN = x.isNaN := by
  cases finite : isFinite x with
  | true => rw [isNaN_of_isFinite ((isFinite_toWhole d x).trans finite), isNaN_of_isFinite finite]
  | false =>
      have same : toWhole d x = x := by
        unfold isFinite at finite
        unfold toWhole
        cases hx : parts x with
        | zero sign => rfl
        | infinity sign => rfl
        | notANumber => rfl
        | finite sign m e h =>
            rw [hx] at finite
            cases finite
      rw [same]

/-! ### Floor, ceiling and nearest whole number -/

/-- A finite double whose value is a whole number. -/
def IsWhole (x : Float) : Prop := isFinite x = true ∧ ∃ n : ℤ, value x = n

theorem isFinite_round (h : isFinite x = true) : isFinite (round x) = true :=
  (isFinite_toWhole .halfAway x).trans h

theorem isFinite_floor (h : isFinite x = true) : isFinite (floor x) = true :=
  (isFinite_toWhole .down x).trans h

theorem isFinite_ceil (h : isFinite x = true) : isFinite (ceil x) = true :=
  (isFinite_toWhole .up x).trans h

theorem value_floor (h : isFinite x = true) : value (floor x) = ⌊value x⌋ := value_toWhole .down h

theorem value_ceil (h : isFinite x = true) : value (ceil x) = ⌈value x⌉ := value_toWhole .up h

theorem isWhole_floor (h : isFinite x = true) : IsWhole (floor x) :=
  ⟨isFinite_floor h, _, value_floor h⟩

theorem isWhole_ceil (h : isFinite x = true) : IsWhole (ceil x) :=
  ⟨isFinite_ceil h, _, value_ceil h⟩

/-- A rounded double is a whole number if it is finite. -/
theorem isWhole_round (h : isFinite (round x) = true) : IsWhole (round x) := by
  have finite : isFinite x = true := (isFinite_toWhole .halfAway x).symm.trans h
  exact ⟨h, _, value_toWhole .halfAway finite⟩

/-- A double is rounded to a whole number at most a half away. -/
theorem abs_value_round_sub_le (h : isFinite x = true) : |value (round x) - value x| ≤ 1 / 2 := by
  rw [round, value_toWhole .halfAway h]
  exact abs_wholeOf_sub_le _

end Double
end BoxSearch

import BoxSearch.Proofs.Energy.Order
import BoxSearch.Scalar

/-!
# Distances and the largest of them

How far apart some numbers are is measured by the largest of their distances, and the largest
is found by going over them and keeping the larger of two.  Both maxima of this library, that of
energies and that of coordinates, pass over missing numbers on the way.

* `Double.zero_le_abs` — a distance is at least zero, unless it is missing;
* `Double.PassesOver` — a maximum to which a missing number gives way;
* `PassesOver.foldl_le_iff` — the largest of some numbers is within a bound when those of them
  that are not missing are.
-/

namespace BoxSearch
namespace Double

open Float.Model (UnpackedFloat Format)
open Float.Model.UnpackedFloat (Sign packComponents unpackSign)

/-! ## The distance from zero -/

/-- The sign that was packed is read again. -/
theorem unpackSign_packComponents (sign : Sign) (e : BitVec Format.binary64.exponentBits)
    (m : BitVec Format.binary64.mantissaBitsWithoutImplicit) :
    Sign.ofBitVec (unpackSign (packComponents .binary64 sign e m)) = sign := by
  unfold unpackSign packComponents BitVec.extractLsb
  rw [BitVec.extractLsb'_append_eq_of_le (by decide),
    BitVec.extractLsb'_append_eq_of_le (by decide)]
  cases sign <;> rfl

/-- A distance is packed with a plus sign. -/
theorem pack_abs (u : UnpackedFloat) : u.abs = .notANumber ∨
    ∃ e m, UnpackedFloat.pack .binary64 u.abs = packComponents .binary64 .positive e m := by
  cases u with
  | notANumber => exact Or.inl rfl
  | infinity s => exact Or.inr ⟨_, _, rfl⟩
  | zero s => exact Or.inr ⟨_, _, rfl⟩
  | finite s m e h =>
      right
      unfold UnpackedFloat.abs UnpackedFloat.pack
      dsimp only
      split
      · exact ⟨_, _, rfl⟩
      · split
        · exact ⟨_, _, rfl⟩
        · exact ⟨_, _, rfl⟩

/-- What has a plus sign ranks at zero or above. -/
theorem partsRank_plus {b : BitVec Format.binary64.numBits}
    (plus : Sign.ofBitVec (unpackSign b) = .positive) :
    rank 0 ≤ partsRank (.unpack .binary64 b) := by
  have above (r : ℤ ×ₗ ℤ) : rank 0 ≤ toLex ((1 : ℤ), r) :=
    Prod.Lex.toLex_le_toLex.2 (Or.inl Int.one_pos)
  unfold UnpackedFloat.unpack
  dsimp only
  rw [plus]
  by_cases ones : UnpackedFloat.unpackExponent b = -1#_
  · rw [if_pos ones]
    by_cases zero : UnpackedFloat.unpackMantissa b = 0#_
    · rw [if_pos zero]
      exact Prod.Lex.toLex_le_toLex.2 (Or.inl (by decide))
    · rw [if_neg zero]
      exact le_rfl
  · rw [if_neg ones]
    by_cases subnormal : UnpackedFloat.unpackExponent b = 0#_
    · rw [if_pos subnormal]
      by_cases zero : UnpackedFloat.unpackMantissa b = 0#_
      · rw [dif_pos zero]
        exact le_rfl
      · rw [dif_neg zero]
        exact above _
    · rw [if_neg subnormal]
      exact above _

/-- **A distance from zero is at least zero**, if it is a number. -/
theorem zero_le_abs {x : Float} (number : x.abs.isNaN = false) : 0 ≤ x.abs := by
  refine le_iff.2 ⟨by decide +kernel, number, ?_⟩
  show rank 0 ≤ partsRank (.unpack .binary64 (UnpackedFloat.pack .binary64 (parts x).abs))
  rcases pack_abs (parts x) with missing | ⟨e, m, packed⟩
  · rw [missing]
    exact le_rfl
  · rw [packed]
    exact partsRank_plus (unpackSign_packComponents .positive e m)

/-! ## The largest of some numbers -/

/-- An operation takes the larger of two numbers, and keeps the first when the second is
missing. -/
def PassesOver (op : Float → Float → Float) : Prop :=
  ∀ a b, a.isNaN = false →
    (a ≤ b ∧ op a b = b) ∨ ((b.isNaN = true ∨ b ≤ a) ∧ op a b = a)

theorem passesOver_larger : PassesOver larger := by
  intro a b ha
  unfold larger
  rw [ha, Bool.false_or]
  by_cases hab : a ≤ b
  · exact Or.inl ⟨hab, if_pos (decide_eq_true hab)⟩
  · refine Or.inr ⟨?_, if_neg fun h => hab (of_decide_eq_true h)⟩
    cases hb : b.isNaN with
    | true => exact Or.inl rfl
    | false => exact Or.inr (le_of_lt ((not_le_iff ha hb).1 hab))

theorem passesOver_scalar : PassesOver Scalar.larger := by
  intro a b ha
  unfold Scalar.larger
  by_cases hab : a < b
  · exact Or.inl ⟨le_of_lt hab, if_pos hab⟩
  · rw [if_neg hab, if_pos (le_refl_iff.2 ha)]
    refine Or.inr ⟨?_, rfl⟩
    cases hb : b.isNaN with
    | true => exact Or.inl rfl
    | false => exact Or.inr ((not_lt_iff ha hb).1 hab)

namespace PassesOver

variable {op : Float → Float → Float} {a b t : Float}

/-- A number is never given up for a missing one. -/
theorem number (h : PassesOver op) (ha : a.isNaN = false) : (op a b).isNaN = false := by
  rcases h a b ha with ⟨hab, taken⟩ | ⟨_, kept⟩
  · rw [taken]
    exact (Double.le_iff.1 hab).2.1
  · rw [kept]
    exact ha

/-- The larger of two is within a bound when both are, a missing one apart. -/
theorem le_iff (h : PassesOver op) (ha : a.isNaN = false) :
    op a b ≤ t ↔ a ≤ t ∧ (b.isNaN = true ∨ b ≤ t) := by
  rcases h a b ha with ⟨hab, taken⟩ | ⟨hb, kept⟩
  · rw [taken, (Double.le_iff.1 hab).2.1, Bool.false_eq_true, false_or]
    exact ⟨fun hbt => ⟨le_trans hab hbt, hbt⟩, fun hbt => hbt.2⟩
  · rw [kept]
    exact ⟨fun hat => ⟨hat, hb.imp_right fun hba => le_trans hba hat⟩, fun hat => hat.1⟩

/-- **The largest of some numbers is within a bound** when the start is and each of them is,
where a missing one is within every bound. -/
theorem foldl_le_iff (h : PassesOver op) {start : Float} (hs : start.isNaN = false)
    (ds : List Float) : ds.foldl op start ≤ t ↔ start ≤ t ∧ ∀ d ∈ ds, d.isNaN = true ∨ d ≤ t := by
  induction ds generalizing start with
  | nil => simp
  | cons d ds ih =>
      rw [List.foldl_cons, ih (h.number hs), h.le_iff hs, List.forall_mem_cons, and_assoc]

end PassesOver

end Double
end BoxSearch

import BoxSearch.Energy
import Mathlib.Data.Int.Order.Basic
import Mathlib.Data.List.Forall2
import Mathlib.Data.Prod.Lex

/-!
# The order of energies

Energies are doubles, and the order of doubles is no linear order: a missing number is
below nothing and above nothing, and the two zeros are equal without being the same.
On the numbers among the doubles it is one all the same, since every double has a
`rank` in a linear order, and the comparisons of the machine are those of the ranks
(`lt_iff`, `le_iff`, `beq_iff`).  Everything said here about comparisons is read off
these three.

* `Energy.argmin_spec` — what the scan for the lowest energy returns: the first place
  of the lowest one, or place 0 and infinity when no energy is below infinity.
* `Energy.argmin_take_beq_iff` — when a beginning of the energies is as low as all of them.
* `Energy.IsLowest` — a value is the lowest of some energies, missing ones passed over.
* `Energy.NoWorse` — an energy is the one before it, or at most that.
* `IsLowest.improve` — a lowest energy that is only ever replaced by a strictly lower
  one stays the lowest, as long as each energy gets no worse.
-/

namespace BoxSearch
namespace Double

open Float.Model (UnpackedFloat)

/-! ## Ranks -/

/-- The rank of the parts of a number: its kind from negative to positive infinity, and
among finite numbers of one sign the exponent and then the significand. -/
def partsRank : UnpackedFloat → ℤ ×ₗ ℤ ×ₗ ℤ
  | .infinity .negative => toLex (-2, toLex (0, 0))
  | .finite .negative m e _ => toLex (-1, toLex (-e, -(m : ℤ)))
  | .zero _ => toLex (0, toLex (0, 0))
  | .notANumber => toLex (0, toLex (0, 0))
  | .finite .positive m e _ => toLex (1, toLex (e, (m : ℤ)))
  | .infinity .positive => toLex (2, toLex (0, 0))

/-- The place of a double in the order of numbers; that of a missing number means
nothing. -/
def rank (x : Float) : ℤ ×ₗ ℤ ×ₗ ℤ := partsRank (parts x)

theorem compare_cast (m n : ℕ) : compare (m : ℤ) (n : ℤ) = compare m n := by
  rcases lt_trichotomy m n with h | rfl | h
  · rw [compare_lt_iff_lt.2 h, compare_lt_iff_lt.2 (Int.ofNat_lt.2 h)]
  · rw [compare_eq_iff_eq.2 rfl, compare_eq_iff_eq.2 rfl]
  · rw [compare_gt_iff_gt.2 h, compare_gt_iff_gt.2 (Int.ofNat_lt.2 h)]

theorem compare_neg (a b : ℤ) : compare (-a) (-b) = (compare a b).swap := by
  rcases lt_trichotomy a b with h | rfl | h
  · rw [compare_lt_iff_lt.2 h, compare_gt_iff_gt.2 (Int.neg_lt_neg h)]
    rfl
  · rw [compare_eq_iff_eq.2 rfl, compare_eq_iff_eq.2 rfl]
    rfl
  · rw [compare_gt_iff_gt.2 h, compare_lt_iff_lt.2 (Int.neg_lt_neg h)]
    rfl

/-- The comparison of two numbers is the comparison of their ranks. -/
theorem compare_parts {a b : UnpackedFloat} (ha : a ≠ .notANumber) (hb : b ≠ .notANumber) :
    a.compare b = some (compare (partsRank a) (partsRank b)) := by
  cases a with
  | notANumber => exact absurd rfl ha
  | infinity s =>
      cases b with
      | notANumber => exact absurd rfl hb
      | infinity t => cases s <;> cases t <;> rfl
      | zero t => cases s <;> rfl
      | finite t m e h => cases s <;> cases t <;> rfl
  | zero s =>
      cases b with
      | notANumber => exact absurd rfl hb
      | infinity t => cases t <;> rfl
      | zero t => rfl
      | finite t m e h => cases t <;> rfl
  | finite s m e h =>
      cases b with
      | notANumber => exact absurd rfl hb
      | infinity t => cases s <;> cases t <;> rfl
      | zero t => cases s <;> rfl
      | finite t n k h' =>
          -- only two finite numbers of one sign are told apart by exponent and significand
          cases s <;> cases t
          · show some ((compare e k).then (compare m n)).swap =
              some ((compare (-e) (-k)).then (compare (-(m : ℤ)) (-(n : ℤ))))
            rw [compare_neg, compare_neg, compare_cast, Ordering.swap_then]
          · rfl
          · rfl
          · show some ((compare e k).then (compare m n)) =
              some ((compare e k).then (compare (m : ℤ) (n : ℤ)))
            rw [compare_cast]

theorem isLE_compare_iff {a b : ℤ ×ₗ ℤ ×ₗ ℤ} : (compare a b).isLE = true ↔ a ≤ b := by
  rw [← not_lt, ← compare_gt_iff_gt]
  cases compare a b <;> simp

theorem compare_notANumber_left (b : UnpackedFloat) :
    UnpackedFloat.compare .notANumber b = none := rfl

theorem compare_notANumber_right (a : UnpackedFloat) : a.compare .notANumber = none := by
  cases a <;> rfl

/-! ## The comparisons of the machine -/

theorem isNaN_eq_false_iff {x : Float} : x.isNaN = false ↔ parts x ≠ .notANumber := by
  show (parts x).isNaN = false ↔ _
  cases parts x with
  | notANumber => exact ⟨nofun, fun h => absurd rfl h⟩
  | infinity s => exact ⟨fun _ => nofun, fun _ => rfl⟩
  | zero s => exact ⟨fun _ => nofun, fun _ => rfl⟩
  | finite s m e h => exact ⟨fun _ => nofun, fun _ => rfl⟩

theorem lt_iff {x y : Float} :
    x < y ↔ x.isNaN = false ∧ y.isNaN = false ∧ rank x < rank y := by
  have unfolded : x < y ↔ ((parts x).compare (parts y) == some .lt) = true := decide_eq_true_iff
  rw [unfolded, isNaN_eq_false_iff, isNaN_eq_false_iff, rank, rank]
  by_cases hx : parts x = .notANumber
  · simp [hx, compare_notANumber_left]
  by_cases hy : parts y = .notANumber
  · simp [hy, compare_notANumber_right]
  rw [compare_parts hx hy]
  simp [hx, hy, compare_lt_iff_lt]

theorem le_iff {x y : Float} :
    x ≤ y ↔ x.isNaN = false ∧ y.isNaN = false ∧ rank x ≤ rank y := by
  have unfolded : x ≤ y ↔ ((parts x).compare (parts y)).any (·.isLE) = true := decide_eq_true_iff
  rw [unfolded, isNaN_eq_false_iff, isNaN_eq_false_iff, rank, rank]
  by_cases hx : parts x = .notANumber
  · simp [hx, compare_notANumber_left]
  by_cases hy : parts y = .notANumber
  · simp [hy, compare_notANumber_right]
  rw [compare_parts hx hy]
  simp [hx, hy, isLE_compare_iff]

theorem beq_iff {x y : Float} :
    (x == y) = true ↔ x.isNaN = false ∧ y.isNaN = false ∧ rank x = rank y := by
  show ((parts x).compare (parts y) == some .eq) = true ↔ _
  rw [isNaN_eq_false_iff, isNaN_eq_false_iff, rank, rank]
  by_cases hx : parts x = .notANumber
  · simp [hx, compare_notANumber_left]
  by_cases hy : parts y = .notANumber
  · simp [hy, compare_notANumber_right]
  rw [compare_parts hx hy]
  simp [hx, hy, compare_eq_iff_eq]

/-! ## The numbers are ordered linearly -/

variable {x y z : Float}

theorem lt_irrefl (x : Float) : ¬ x < x := by
  rw [lt_iff]
  exact fun h => h.2.2.ne rfl

theorem lt_trans (h : x < y) (h' : y < z) : x < z := by
  rw [lt_iff] at *
  exact ⟨h.1, h'.2.1, h.2.2.trans h'.2.2⟩

theorem le_trans (h : x ≤ y) (h' : y ≤ z) : x ≤ z := by
  rw [le_iff] at *
  exact ⟨h.1, h'.2.1, h.2.2.trans h'.2.2⟩

theorem lt_of_le_of_lt (h : x ≤ y) (h' : y < z) : x < z := by
  rw [le_iff] at h
  rw [lt_iff] at *
  exact ⟨h.1, h'.2.1, h.2.2.trans_lt h'.2.2⟩

theorem lt_of_lt_of_le (h : x < y) (h' : y ≤ z) : x < z := by
  rw [le_iff] at h'
  rw [lt_iff] at *
  exact ⟨h.1, h'.2.1, h.2.2.trans_le h'.2.2⟩

theorem le_of_lt (h : x < y) : x ≤ y := by
  rw [lt_iff] at h
  exact le_iff.2 ⟨h.1, h.2.1, h.2.2.le⟩

theorem not_le_of_lt (h : x < y) : ¬ y ≤ x := by
  rw [lt_iff] at h
  rw [le_iff]
  exact fun h' => h.2.2.not_ge h'.2.2

theorem not_lt_iff (hx : x.isNaN = false) (hy : y.isNaN = false) : ¬ x < y ↔ y ≤ x := by
  rw [lt_iff, le_iff]
  constructor
  · intro h
    exact ⟨hy, hx, le_of_not_gt fun hlt => h ⟨hx, hy, hlt⟩⟩
  · intro hle hlt
    exact hlt.2.2.not_ge hle.2.2

theorem not_le_iff (hx : x.isNaN = false) (hy : y.isNaN = false) : ¬ x ≤ y ↔ y < x := by
  rw [lt_iff, le_iff]
  constructor
  · intro h
    exact ⟨hy, hx, lt_of_not_ge fun hle => h ⟨hx, hy, hle⟩⟩
  · intro hlt hle
    exact hlt.2.2.not_ge hle.2.2

theorem le_refl_iff : x ≤ x ↔ x.isNaN = false := by
  simp [le_iff]

/-- Two numbers that are at most each other are equal, though they can be two zeros. -/
theorem beq_of_le_of_le (h : x ≤ y) (h' : y ≤ x) : (x == y) = true := by
  rw [le_iff] at *
  exact beq_iff.2 ⟨h.1, h.2.1, h.2.2.antisymm h'.2.2⟩

theorem beq_iff_le_and_le : (x == y) = true ↔ x ≤ y ∧ y ≤ x := by
  constructor
  · intro h
    obtain ⟨hx, hy, rank⟩ := beq_iff.1 h
    exact ⟨le_iff.2 ⟨hx, hy, rank.le⟩, le_iff.2 ⟨hy, hx, rank.ge⟩⟩
  · exact fun h => beq_of_le_of_le h.1 h.2

theorem parts_infinity : parts infinity = .infinity .positive := rfl

theorem isNaN_infinity : infinity.isNaN = false := by decide +kernel

/-- Infinity is the largest number. -/
theorem le_infinity (h : x.isNaN = false) : x ≤ infinity := by
  refine le_iff.2 ⟨h, isNaN_infinity, ?_⟩
  have below {k : ℤ} (hk : k < 2) (r : ℤ ×ₗ ℤ) :
      (toLex (k, r) : ℤ ×ₗ ℤ ×ₗ ℤ) ≤ toLex (2, toLex (0, 0)) :=
    Prod.Lex.toLex_le_toLex.2 (Or.inl hk)
  rw [rank, rank, parts_infinity]
  cases parts x with
  | notANumber => exact below (by decide) _
  | infinity s => cases s with
      | negative => exact below (by decide) _
      | positive => exact le_of_eq rfl
  | zero s => exact below (by decide) _
  | finite s m e hm => cases s <;> exact below (by decide) _

end Double

namespace Energy

/-! ## The scan for the lowest energy -/

/-- What the scan returns when it goes on from a lowest value so far: that one, when no
energy is below it, and otherwise the first place of the lowest energy. -/
theorem argminFrom_spec (i : Nat) (best : Nat × Float) (es : List Float) :
    (argminFrom i best es = best ∧ ∀ e ∈ es, ¬ e < best.2) ∨
      ∃ k e, es[k]? = some e ∧ argminFrom i best es = (i + k, e) ∧ e < best.2 ∧
        (∀ e' ∈ es, ¬ e' < e) ∧ ∀ e' ∈ es.take k, ¬ e' ≤ e := by
  induction es generalizing i best with
  | nil => exact Or.inl ⟨rfl, by simp⟩
  | cons x es ih =>
      rw [argminFrom]
      by_cases hx : x < best.2
      · rw [if_pos hx]
        rcases ih (i + 1) (i, x) with ⟨h, above⟩ | ⟨k, e, hk, h, he, above, first⟩
        · refine Or.inr ⟨0, x, rfl, h, hx, ?_, by simp⟩
          simpa using ⟨Double.lt_irrefl x, above⟩
        · refine Or.inr ⟨k + 1, e, hk, ?_, Double.lt_trans he hx, ?_, ?_⟩
          · rw [h, Nat.add_assoc, Nat.add_comm 1 k]
          · simpa using ⟨fun h => Double.not_le_of_lt he (Double.le_of_lt h), above⟩
          · simpa using ⟨Double.not_le_of_lt he, first⟩
      · rw [if_neg hx]
        rcases ih (i + 1) best with ⟨h, above⟩ | ⟨k, e, hk, h, he, above, first⟩
        · refine Or.inl ⟨h, ?_⟩
          simpa using ⟨hx, above⟩
        · have hxe : ¬ x ≤ e := fun h => hx (Double.lt_of_le_of_lt h he)
          refine Or.inr ⟨k + 1, e, hk, ?_, he, ?_, ?_⟩
          · rw [h, Nat.add_assoc, Nat.add_comm 1 k]
          · simpa using ⟨fun h => hxe (Double.le_of_lt h), above⟩
          · simpa using ⟨hxe, first⟩

/-- **The lowest energy and its first place**, or place 0 and infinity when no energy is
below infinity. -/
theorem argmin_spec (es : List Float) :
    (argmin es = (0, Double.infinity) ∧ ∀ e ∈ es, ¬ e < Double.infinity) ∨
      ∃ k e, es[k]? = some e ∧ argmin es = (k, e) ∧ e < Double.infinity ∧
        (∀ e' ∈ es, ¬ e' < e) ∧ ∀ e' ∈ es.take k, ¬ e' ≤ e := by
  have h := argminFrom_spec 0 (0, Double.infinity) es
  simp only [Nat.zero_add] at h
  exact h

/-- The scan goes on where it stood. -/
theorem argminFrom_append (i : Nat) (best : Nat × Float) (es es' : List Float) :
    argminFrom i best (es ++ es') = argminFrom (i + es.length) (argminFrom i best es) es' := by
  induction es generalizing i best with
  | nil => rfl
  | cons e es ih =>
      rw [List.cons_append, argminFrom, argminFrom, ih, List.length_cons, Nat.add_assoc,
        Nat.add_comm 1]

/-- One energy more is the lowest if it is below all before it. -/
theorem argmin_concat (es : List Float) (e : Float) :
    argmin (es ++ [e]) = if e < (argmin es).2 then (es.length, e) else argmin es := by
  rw [argmin, argminFrom_append, Nat.zero_add]
  rfl

/-- A beginning in which the first place of the lowest energy lies has it there as well. -/
theorem argmin_take {es : List Float} {n : Nat} (h : (argmin es).1 < n) :
    argmin (es.take n) = argmin es := by
  rcases Nat.le_total es.length n with hn | hn
  · rw [List.take_of_length_le hn]
  have split : argmin es = argminFrom n (argmin (es.take n)) (es.drop n) := by
    conv_lhs => rw [← List.take_append_drop n es]
    rw [argmin, argminFrom_append, List.length_take, Nat.min_eq_left hn, Nat.zero_add]
    rfl
  rcases argminFrom_spec n (argmin (es.take n)) (es.drop n) with ⟨same, _⟩ | ⟨k, e, _, later, _⟩
  · rw [split, same]
  · rw [split, later] at h
    exact absurd h (Nat.not_lt.2 (Nat.le_add_right n k))

/-- A lowest energy below infinity is found at its place. -/
theorem getElem?_argmin {es : List Float} (h : (argmin es).2 < Double.infinity) :
    es[(argmin es).1]? = some (argmin es).2 := by
  rcases argmin_spec es with ⟨he, _⟩ | ⟨k, e, hk, he, _⟩
  · rw [he] at h
    exact absurd h (Double.lt_irrefl _)
  · rw [he]
    exact hk

/-- The lowest of some energies has a place among them. -/
theorem argmin_lt_length {es : List Float} (h : es ≠ []) : (argmin es).1 < es.length := by
  rcases argmin_spec es with ⟨he, _⟩ | ⟨k, e, hk, he, _⟩
  · rw [he]
    exact List.length_pos_iff.2 h
  · rw [he]
    exact (List.getElem?_eq_some_iff.1 hk).1

/-- There are energies when the lowest of them is below anything. -/
theorem argmin_lt_length_of_lt {es : List Float} {x : Float} (h : (argmin es).2 < x) :
    (argmin es).1 < es.length := by
  refine argmin_lt_length ?_
  rintro rfl
  exact Double.not_le_of_lt h (Double.le_infinity (Double.lt_iff.1 h).2.1)

/-! ## Lowest energies -/

/-- A number is the lowest of some energies: no number among them is below it, and it is
one of them, or there are none and it is infinity. -/
structure IsLowest (best : Float) (es : List Float) : Prop where
  /-- it is a number -/
  number : best.isNaN = false
  /-- no number among the energies is below it -/
  below : ∀ e ∈ es, e.isNaN = false → best ≤ e
  /-- it is among them if there are any -/
  attained : (∃ e ∈ es, (best == e) = true) ∨
    (best = Double.infinity ∧ ∀ e ∈ es, e.isNaN = true)

theorem isLowest_argmin (es : List Float) : IsLowest (argmin es).2 es := by
  rcases argmin_spec es with ⟨h, above⟩ | ⟨k, e, hk, h, he, above, _⟩
  · rw [h]
    have high : ∀ e ∈ es, e.isNaN = false → Double.infinity ≤ e := fun e he hn =>
      (Double.not_lt_iff hn Double.isNaN_infinity).1 (above e he)
    refine ⟨Double.isNaN_infinity, high, ?_⟩
    by_cases hall : ∀ e ∈ es, e.isNaN = true
    · exact Or.inr ⟨rfl, hall⟩
    · simp only [not_forall, Bool.not_eq_true] at hall
      obtain ⟨e, he, hn⟩ := hall
      exact Or.inl ⟨e, he, Double.beq_of_le_of_le (high e he hn) (Double.le_infinity hn)⟩
  · rw [h]
    have number := (Double.lt_iff.1 he).1
    refine ⟨number, fun e' he' hn => (Double.not_lt_iff hn number).1 (above e' he'), Or.inl ?_⟩
    exact ⟨e, List.mem_of_getElem? hk,
      Double.beq_of_le_of_le (Double.le_refl_iff.2 number) (Double.le_refl_iff.2 number)⟩

/-- The lowest of some numbers is not below all of them. -/
theorem IsLowest.exists_le {best : Float} {es : List Float} (h : IsLowest best es)
    (some : es ≠ []) (numbers : ∀ e ∈ es, e.isNaN = false) : ∃ e ∈ es, e ≤ best := by
  rcases h.attained with ⟨e, he, eq⟩ | ⟨_, missing⟩
  · exact ⟨e, he, (Double.beq_iff_le_and_le.1 eq).2⟩
  · obtain ⟨e, he⟩ := List.exists_mem_of_ne_nil es some
    have number := numbers e he
    rw [missing e he] at number
    cases number

/-- **A beginning is as low as the whole** exactly when the first place of the lowest energy
lies in it. -/
theorem argmin_take_beq_iff {es : List Float} {n : Nat} (numbers : ∀ e ∈ es, e.isNaN = false)
    (h : 0 < n) :
    ((argmin (es.take n)).2 == (argmin es).2) = true ↔ (argmin es).1 < n := by
  constructor
  · intro same
    rcases argmin_spec es with ⟨none, _⟩ | ⟨k, e, place, lowest, _, _, first⟩
    · rw [none]
      exact h
    · rw [lowest] at same ⊢
      by_contra later
      -- then all of the beginning is above the lowest energy
      have above : ∀ e' ∈ es.take n, ¬ e' ≤ e := fun e' he' =>
        first e' ((List.take_prefix_take_left (Nat.not_lt.1 later)).subset he')
      have some : es.take n ≠ [] := by
        rintro nothing
        rcases List.take_eq_nil_iff.1 nothing with rfl | rfl
        · exact Nat.lt_irrefl 0 h
        · cases place
      obtain ⟨e', he', low⟩ := (isLowest_argmin (es.take n)).exists_le some fun e' he' =>
        numbers e' (List.mem_of_mem_take he')
      exact above e' he' (Double.le_trans low (Double.beq_iff_le_and_le.1 same).1)
  · intro inside
    rw [argmin_take inside]
    have number := Double.le_refl_iff.2 (isLowest_argmin es).number
    exact Double.beq_of_le_of_le number number

/-- An energy is what it was, or at most that. -/
def NoWorse (after before : Float) : Prop := after = before ∨ after ≤ before

theorem NoWorse.refl (e : Float) : NoWorse e e := Or.inl rfl

theorem NoWorse.trans {a b c : Float} (h : NoWorse a b) (h' : NoWorse b c) : NoWorse a c := by
  rcases h with rfl | h
  · exact h'
  · rcases h' with rfl | h'
    · exact Or.inr h
    · exact Or.inr (Double.le_trans h h')

theorem NoWorse.le {a b : Float} (h : NoWorse a b) (number : b.isNaN = false) : a ≤ b := by
  rcases h with rfl | h
  · exact Double.le_refl_iff.2 number
  · exact h

/-- A missing energy that gets no worse is missing still. -/
theorem NoWorse.isNaN {a b : Float} (h : NoWorse a b) (missing : b.isNaN = true) :
    a.isNaN = true := by
  rcases h with rfl | h
  · exact missing
  · rw [(Double.le_iff.1 h).2.1] at missing
    cases missing

/-- No energy of a list is worse than the one before it at its place. -/
theorem NoWorse.all_refl (es : List Float) : List.Forall₂ NoWorse es es :=
  List.forall₂_same.2 fun e _ => .refl e

theorem NoWorse.all_trans {as bs cs : List Float} (h : List.Forall₂ NoWorse as bs)
    (h' : List.Forall₂ NoWorse bs cs) : List.Forall₂ NoWorse as cs := by
  induction h generalizing cs with
  | nil => exact h'
  | cons hab _ ih =>
      cases h' with
      | cons hbc hrest => exact .cons (hab.trans hbc) (ih hrest)

theorem NoWorse.exists_after {as bs : List Float} (h : List.Forall₂ NoWorse as bs) {i : ℕ}
    {b : Float} (hb : bs[i]? = some b) : ∃ a, as[i]? = some a ∧ NoWorse a b := by
  induction h generalizing i with
  | nil => cases hb
  | cons hab _ ih =>
      cases i with
      | zero =>
          cases hb
          exact ⟨_, rfl, hab⟩
      | succ i => exact ih hb

/-- The lowest energy, replaced when a lower one is there now. -/
def improve (best : Float) (es : List Float) : Float :=
  if (argmin es).2 < best then (argmin es).2 else best

/-- **The lowest energy is kept up by strict improvement.**  When no energy got worse,
the one that was the lowest is the lowest still, unless a strictly lower one is found. -/
theorem IsLowest.improve {best : Float} {es es' : List Float} (h : IsLowest best es)
    (kept : List.Forall₂ NoWorse es' es) : IsLowest (improve best es') es' := by
  unfold Energy.improve
  have lowest := isLowest_argmin es'
  by_cases hlt : (argmin es').2 < best
  · rw [if_pos hlt]
    exact lowest
  rw [if_neg hlt]
  have hle : best ≤ (argmin es').2 := (Double.not_lt_iff lowest.number h.number).1 hlt
  have below : ∀ e ∈ es', e.isNaN = false → best ≤ e := fun e he hn =>
    Double.le_trans hle (lowest.below e he hn)
  refine ⟨h.number, below, ?_⟩
  rcases h.attained with ⟨e, he, heq⟩ | ⟨rfl, hall⟩
  · -- the energy that was the lowest is now at most what it was, and not below the best
    obtain ⟨i, hi⟩ := List.mem_iff_getElem?.1 he
    obtain ⟨e', he', hkept⟩ := NoWorse.exists_after kept hi
    obtain ⟨_, number, hrank⟩ := Double.beq_iff.1 heq
    have hle' : e' ≤ e := hkept.le number
    have hback : e ≤ best := Double.le_iff.2 ⟨number, h.number, hrank.ge⟩
    have hmem := List.mem_of_getElem? he'
    exact Or.inl ⟨e', hmem, Double.beq_of_le_of_le (below e' hmem (Double.le_iff.1 hle').1)
      (Double.le_trans hle' hback)⟩
  · refine Or.inr ⟨rfl, fun e' he' => ?_⟩
    obtain ⟨i, hi, rfl⟩ := List.mem_iff_getElem.1 he'
    have hi' : i < es.length := by rwa [← kept.length_eq]
    exact ((List.forall₂_iff_get.1 kept).2 i hi hi').isNaN (hall _ (List.getElem_mem hi'))

/-- The first lowest energy is found by improving on infinity. -/
theorem improve_infinity (es : List Float) : improve Double.infinity es = (argmin es).2 := by
  unfold improve
  rcases argmin_spec es with ⟨h, _⟩ | ⟨k, e, _, h, he, _⟩
  · rw [h, if_neg (Double.lt_irrefl _)]
  · rw [h, if_pos he]

/-- Improving never makes the lowest energy worse. -/
theorem noWorse_improve (best : Float) (es : List Float) : NoWorse (improve best es) best := by
  unfold improve
  by_cases h : (argmin es).2 < best
  · rw [if_pos h]
    exact Or.inr (Double.le_of_lt h)
  · rw [if_neg h]
    exact .refl best

end Energy
end BoxSearch

import BoxSearch.Proofs.Double.Whole
import BoxSearch.Proofs.Box.Holding
import BoxSearch.Constraint.Repair

/-!
# Rounding inside intervals

A marked coordinate is rounded; what falls below its interval is replaced by the first whole number
above the lower end, and what is then above the interval by the last one below the upper end.  An
interval without a whole number sets the two corrections against each other, and the last one wins:
the result is outside, and the clip after it moves it back to an end that is not whole.

* `Repair.nearestWhole_wholeIn` — a finite coordinate becomes a nearest whole number of its
  interval, or the last one below an interval that has none;
* `Repair.wholeMarked_wholeMarked` — a point that was repaired is left as it is;
* `Box.clip_wholeMarked_idem` — and so is one that was repaired and clipped, by both together, in
  whatever interval.
-/

namespace BoxSearch

open Double (value IsWhole)

namespace Interval

/-- Both ends are finite. -/
structure Finite (s : Interval Float) : Prop where
  /-- the lower end -/
  lower : Double.isFinite s.lower = true
  /-- the upper end -/
  upper : Double.isFinite s.upper = true

/-- There is a whole number between the ends. -/
def HasWhole (s : Interval Float) : Prop := ∃ n : ℤ, value s.lower ≤ n ∧ (n : ℚ) ≤ value s.upper

variable {s : Interval Float}

theorem not_lower_above_ceil (h : s.Finite) : ¬ Double.ceil s.lower < s.lower := by
  rw [Double.lt_iff_value (Double.isFinite_ceil h.lower) h.lower, Double.value_ceil h.lower, not_lt]
  exact Int.le_ceil _

theorem not_upper_below_floor (h : s.Finite) : ¬ s.upper < Double.floor s.upper := by
  rw [Double.lt_iff_value h.upper (Double.isFinite_floor h.upper), Double.value_floor h.upper,
    not_lt]
  exact Int.floor_le _

/-- Between the ends there is no whole number if the first one above the lower end is above the
upper one. -/
theorem upper_lt_ceil_iff (h : s.Finite) : s.upper < Double.ceil s.lower ↔ ¬ s.HasWhole := by
  rw [Double.lt_iff_value h.upper (Double.isFinite_ceil h.lower), Double.value_ceil h.lower]
  constructor
  · rintro above ⟨n, low, high⟩
    have : (⌈value s.lower⌉ : ℚ) ≤ n := by exact_mod_cast Int.ceil_le.2 low
    linarith
  · intro none
    by_contra inside
    exact none ⟨_, Int.le_ceil _, not_lt.1 inside⟩

/-- Nor if the last one below the upper end is below the lower one. -/
theorem floor_lt_lower_iff (h : s.Finite) : Double.floor s.upper < s.lower ↔ ¬ s.HasWhole := by
  rw [Double.lt_iff_value (Double.isFinite_floor h.upper) h.lower, Double.value_floor h.upper]
  constructor
  · rintro below ⟨n, low, high⟩
    have : (n : ℚ) ≤ ⌊value s.upper⌋ := by exact_mod_cast Int.le_floor.2 high
    linarith
  · intro none
    by_contra inside
    exact none ⟨_, not_lt.1 inside, Int.floor_le _⟩

/-! ### Clamping -/

theorem clamp_of_fixed {v : Float} (fixed : s.isFree = false) : s.clamp v = s.lower := by
  rw [clamp, fixed]
  exact if_neg Bool.false_ne_true

theorem clamp_of_free {v : Float} (free : s.isFree = true) (below : ¬ v < s.lower)
    (above : ¬ s.upper < v) : s.clamp v = v := by
  rw [clamp, if_pos free, if_neg below, if_neg above]

/-- Clamping twice is clamping once. -/
theorem clamp_clamp (s : Interval Float) (v : Float) : s.clamp (s.clamp v) = s.clamp v := by
  cases free : s.isFree with
  | false => rw [clamp_of_fixed free, clamp_of_fixed free]
  | true =>
      have held := s.holds_clamp v
      exact clamp_of_free free held.not_below held.not_above

end Interval

/-! ## One coordinate -/

namespace Repair

variable {s : Interval Float} {v x : Float}

theorem wholeIn_eq (s : Interval Float) (x : Float) :
    wholeIn s x =
      if s.upper < (if Double.round x < s.lower then Double.ceil s.lower else Double.round x) then
        Double.floor s.upper
      else if Double.round x < s.lower then Double.ceil s.lower else Double.round x := rfl

/-- What rounding leaves: a whole number that does not escape from the interval, or the last one
below an interval that has none. -/
def Rounded (s : Interval Float) (v : Float) : Prop :=
  Double.round v = v ∧ ((¬ v < s.lower ∧ ¬ s.upper < v) ∨ (v = Double.floor s.upper ∧ ¬ s.HasWhole))

theorem rounded_wholeIn (h : s.Finite) (x : Float) : Rounded s (wholeIn s x) := by
  have floor : Rounded s (Double.floor s.upper) := by
    refine ⟨Double.toWhole_toWhole _ _ _, ?_⟩
    by_cases below : Double.floor s.upper < s.lower
    · exact .inr ⟨rfl, (Interval.floor_lt_lower_iff h).1 below⟩
    · exact .inl ⟨below, Interval.not_upper_below_floor h⟩
  rw [wholeIn_eq]
  by_cases below : Double.round x < s.lower
  · rw [if_pos below]
    split
    · exact floor
    · next inside =>
      exact ⟨Double.toWhole_toWhole _ _ _, .inl ⟨Interval.not_lower_above_ceil h, inside⟩⟩
  · rw [if_neg below]
    split
    · exact floor
    · next inside => exact ⟨Double.toWhole_toWhole _ _ _, .inl ⟨below, inside⟩⟩

/-- What rounding leaves is left as it is. -/
theorem wholeIn_of_rounded (h : s.Finite) (hv : Rounded s v) : wholeIn s v = v := by
  obtain ⟨fixed, place⟩ := hv
  rw [wholeIn_eq, fixed]
  rcases place with ⟨below, above⟩ | ⟨rfl, none⟩
  · rw [if_neg below, if_neg above]
  · rw [if_pos ((Interval.floor_lt_lower_iff h).2 none)]
    exact if_pos ((Interval.upper_lt_ceil_iff h).2 none)

/-- **Rounding twice is rounding once**, bit for bit. -/
theorem wholeIn_wholeIn (h : s.Finite) (x : Float) : wholeIn s (wholeIn s x) = wholeIn s x :=
  wholeIn_of_rounded h (rounded_wholeIn h x)

/-- A number is rounded to a whole number. -/
theorem isWhole_wholeIn (h : s.Finite) (number : x.isNaN = false) : IsWhole (wholeIn s x) := by
  have rounded : (Double.round x).isNaN = false :=
    (Double.isNaN_toWhole .halfAway x).trans number
  have between (below : ¬ Double.round x < s.lower) (above : ¬ s.upper < Double.round x) :
      IsWhole (Double.round x) :=
    Double.isWhole_round (Double.isFinite_of_between h.lower h.upper
      ((Double.not_lt_iff rounded s.number_lower).1 below)
      ((Double.not_lt_iff s.number_upper rounded).1 above))
  rw [wholeIn_eq]
  by_cases below : Double.round x < s.lower
  · rw [if_pos below]
    split
    · exact Double.isWhole_floor h.upper
    · exact Double.isWhole_ceil h.lower
  · rw [if_neg below]
    split
    · exact Double.isWhole_floor h.upper
    · next above => exact between below above

theorem isNaN_wholeIn (missing : x.isNaN = true) : (wholeIn s x).isNaN = true := by
  have rounded : (Double.round x).isNaN = true :=
    (Double.isNaN_toWhole .halfAway x).trans missing
  have below : ¬ Double.round x < s.lower := fun lt => by
    have := (Double.lt_iff.1 lt).1
    rw [rounded] at this
    cases this
  have above : ¬ s.upper < Double.round x := fun lt => by
    have := (Double.lt_iff.1 lt).2.1
    rw [rounded] at this
    cases this
  rw [wholeIn_eq, if_neg below, if_neg above]
  exact rounded

/-- In an interval with whole numbers it is one of them. -/
theorem between_wholeIn (h : s.Finite) (some : s.HasWhole) (number : x.isNaN = false) :
    s.lower ≤ wholeIn s x ∧ wholeIn s x ≤ s.upper := by
  have whole := Double.isNaN_of_isFinite (isWhole_wholeIn h number).1
  obtain ⟨-, ⟨below, above⟩ | ⟨-, none⟩⟩ := rounded_wholeIn h x
  · exact ⟨(Double.not_lt_iff whole s.number_lower).1 below,
      (Double.not_lt_iff s.number_upper whole).1 above⟩
  · exact absurd some none

/-- In an interval without whole numbers it is the last one below the interval. -/
theorem wholeIn_of_not_hasWhole (h : s.Finite) (none : ¬ s.HasWhole) (number : x.isNaN = false) :
    wholeIn s x = Double.floor s.upper := by
  have whole := isWhole_wholeIn h number
  obtain ⟨-, ⟨below, above⟩ | ⟨last, -⟩⟩ := rounded_wholeIn h x
  · obtain ⟨finite, n, integer⟩ := whole
    rw [Double.lt_iff_value finite h.lower, integer, not_lt] at below
    rw [Double.lt_iff_value h.upper finite, integer, not_lt] at above
    exact absurd ⟨n, below, above⟩ none
  · exact last

/-- **It is a nearest one**: no whole number of the interval is nearer. -/
theorem wholeIn_nearest (h : s.Finite) (hx : Double.isFinite x = true) {n : ℤ}
    (low : value s.lower ≤ n) (high : (n : ℚ) ≤ value s.upper) :
    |value (wholeIn s x) - value x| ≤ |(n : ℚ) - value x| := by
  have finite := Double.isFinite_round hx
  obtain ⟨-, r, integer⟩ := Double.isWhole_round finite
  have half := abs_le.1 (Double.abs_value_round_sub_le hx)
  rw [integer] at half
  have ceil := Double.value_ceil h.lower
  have floor := Double.value_floor h.upper
  have some : ¬ s.upper < Double.ceil s.lower := fun none =>
    (Interval.upper_lt_ceil_iff h).1 none ⟨n, low, high⟩
  rw [wholeIn_eq]
  by_cases below : Double.round x < s.lower
  · -- the first whole number of the interval is above the coordinate
    rw [if_pos below, if_neg some]
    have beneath : value (Double.round x) < value s.lower :=
      (Double.lt_iff_value finite h.lower).1 below
    have first : (⌈value s.lower⌉ : ℚ) ≤ n := by exact_mod_cast Int.ceil_le.2 low
    have next : (r : ℚ) + 1 ≤ ⌈value s.lower⌉ := by
      rw [integer] at beneath
      exact_mod_cast Int.lt_ceil.2 beneath
    rw [ceil, abs_of_nonneg (by linarith), abs_of_nonneg (by linarith)]
    linarith
  · rw [if_neg below]
    by_cases above : s.upper < Double.round x
    · -- the last one is below it
      rw [if_pos above]
      have beyond : value s.upper < value (Double.round x) :=
        (Double.lt_iff_value h.upper finite).1 above
      have last : (n : ℚ) ≤ ⌊value s.upper⌋ := by exact_mod_cast Int.le_floor.2 high
      have next : (⌊value s.upper⌋ : ℚ) + 1 ≤ r := by
        rw [integer] at beyond
        exact_mod_cast Int.floor_lt.2 beyond
      rw [floor, abs_of_nonpos (by linarith), abs_of_nonpos (by linarith)]
      linarith
    · -- any other whole number is a half or more away
      rw [if_neg above, integer]
      rcases lt_trichotomy n r with less | rfl | more
      · have : (n : ℚ) + 1 ≤ r := by exact_mod_cast less
        rw [abs_of_nonpos (show (n : ℚ) - value x ≤ 0 by linarith), abs_le]
        constructor <;> linarith
      · exact le_rfl
      · have : (r : ℚ) + 1 ≤ n := by exact_mod_cast more
        rw [abs_of_nonneg (show (0 : ℚ) ≤ n - value x by linarith), abs_le]
        constructor <;> linarith

/-! ### Rounded and then clamped -/

/-- **Rounding and clamping twice is doing it once**, bit for bit, also where the two are at odds
because the interval has no whole number. -/
theorem clamp_wholeIn_idem (h : s.Finite) (x : Float) :
    s.clamp (wholeIn s (s.clamp (wholeIn s x))) = s.clamp (wholeIn s x) := by
  cases free : s.isFree with
  | false => rw [Interval.clamp_of_fixed free, Interval.clamp_of_fixed free]
  | true =>
      have rounded := rounded_wholeIn h x
      obtain ⟨-, ⟨below, above⟩ | ⟨last, none⟩⟩ := id rounded
      · have inside := Interval.clamp_of_free free below above
        rw [inside, wholeIn_of_rounded h rounded, inside]
      · have outside : s.clamp (wholeIn s x) = s.lower := by
          rw [last, Interval.clamp, if_pos free, if_pos ((Interval.floor_lt_lower_iff h).2 none)]
        have again : wholeIn s s.lower = wholeIn s x := by
          rw [wholeIn_of_not_hasWhole h none s.number_lower, last]
        rw [outside, again, outside]

/-- What rounding is to do for a coordinate: a whole number, one of the interval that is as near as
any, or the last one below the interval if it has none. -/
structure NearestWhole (s : Interval Float) (x w : Float) : Prop where
  /-- a whole number -/
  whole : IsWhole w
  /-- in the interval, if there is one -/
  between : s.HasWhole → s.lower ≤ w ∧ w ≤ s.upper
  /-- and there none is nearer -/
  nearest : ∀ n : ℤ, value s.lower ≤ n → (n : ℚ) ≤ value s.upper →
    |value w - value x| ≤ |(n : ℚ) - value x|
  /-- below it otherwise -/
  last : ¬ s.HasWhole → w = Double.floor s.upper

/-- **A finite coordinate is rounded to a nearest whole number** of its interval. -/
theorem nearestWhole_wholeIn (h : s.Finite) (hx : Double.isFinite x = true) :
    NearestWhole s x (wholeIn s x) where
  whole := isWhole_wholeIn h (Double.isNaN_of_isFinite hx)
  between some := between_wholeIn h some (Double.isNaN_of_isFinite hx)
  nearest _ := wholeIn_nearest h hx
  last none := wholeIn_of_not_hasWhole h none (Double.isNaN_of_isFinite hx)

end Repair

/-! ## Points -/

/-- All coordinates are finite. -/
def FinitePoint (x : Point Float) : Prop := ∀ v ∈ x, Double.isFinite v = true

/-- Applies to each coordinate the function of its side, as far as there are sides. -/
def along {β γ : Type} (f : β → γ → γ) : List β → List γ → List γ
  | p :: sides, v :: x => f p v :: along f sides x
  | _, x => x

section Along

variable {β γ : Type} {f g : β → γ → γ} {sides : List β}

theorem along_along (f g : β → γ → γ) (sides : List β) (x : List γ) :
    along f sides (along g sides x) = along (fun p v => f p (g p v)) sides x := by
  induction sides generalizing x with
  | nil => cases x <;> rfl
  | cons p sides ih =>
      cases x with
      | nil => rfl
      | cons v x => simp only [along, ih]

theorem along_ext (h : ∀ p ∈ sides, ∀ v, f p v = g p v) (x : List γ) :
    along f sides x = along g sides x := by
  induction sides generalizing x with
  | nil => cases x <;> rfl
  | cons p sides ih =>
      obtain ⟨first, others⟩ := List.forall_mem_cons.1 h
      cases x with
      | nil => rfl
      | cons v x => simp only [along, first, ih others]

theorem getElem?_along {x : List γ} {i : ℕ} {p : β} {v : γ} (hs : sides[i]? = some p)
    (hv : x[i]? = some v) : (along f sides x)[i]? = some (f p v) := by
  induction sides generalizing x i with
  | nil => cases hs
  | cons q sides ih =>
      cases x with
      | nil => cases hv
      | cons w x =>
          cases i with
          | zero =>
              cases hs
              cases hv
              rfl
          | succ i => exact ih hs hv

end Along

namespace Repair

/-- The whole number of a side that is marked; the coordinate itself without a mark. -/
def wholeAt (p : Bool × Interval Float) (v : Float) : Float := if p.1 then wholeIn p.2 v else v

@[simp]
theorem wholeAt_true (s : Interval Float) (v : Float) : wholeAt (true, s) v = wholeIn s v :=
  if_pos rfl

@[simp]
theorem wholeAt_false (s : Interval Float) (v : Float) : wholeAt (false, s) v = v :=
  if_neg Bool.false_ne_true

theorem wholeMarked_eq_along (marks : List (Bool × Interval Float)) (x : Point Float) :
    wholeMarked marks x = along wholeAt marks x := by
  induction marks generalizing x with
  | nil => cases x <;> rfl
  | cons p marks ih =>
      cases x with
      | nil => rfl
      | cons v x => simp only [wholeMarked, along, ih, wholeAt]

theorem wholeAt_wholeAt {p : Bool × Interval Float} (h : p.2.Finite) (v : Float) :
    wholeAt p (wholeAt p v) = wholeAt p v := by
  obtain ⟨marked, s⟩ := p
  cases marked with
  | true => simp only [wholeAt_true, wholeIn_wholeIn h]
  | false => simp only [wholeAt_false]

theorem integrality_eq {mask : List Bool} {b : Box Float} (length : mask.length = b.dim) :
    integrality mask b = .ok (.whole (mask.zip b.sides)) := if_pos length

/-- **A repaired point is left as it is.** -/
theorem wholeMarked_wholeMarked {marks : List (Bool × Interval Float)}
    (h : ∀ p ∈ marks, p.2.Finite) (x : Point Float) :
    wholeMarked marks (wholeMarked marks x) = wholeMarked marks x := by
  simp only [wholeMarked_eq_along, along_along]
  exact along_ext (fun p hp => wholeAt_wholeAt (h p hp)) x

end Repair

namespace Box

variable {b : Box Float} {mask : List Bool}

/-- All ends are finite. -/
def Finite (b : Box Float) : Prop := ∀ s ∈ b.sides, s.Finite

theorem Finite.marked (h : b.Finite) {p : Bool × Interval Float} (hp : p ∈ mask.zip b.sides) :
    p.2.Finite := h p.2 (List.of_mem_zip hp).2

theorem getElem?_marks {i : ℕ} {marked : Bool} {s : Interval Float} (hm : mask[i]? = some marked)
    (hs : b.sides[i]? = some s) : (mask.zip b.sides)[i]? = some (marked, s) :=
  List.getElem?_zip_eq_some.2 ⟨hm, hs⟩

/-- Clipping, where each side has a mark. -/
theorem clip_eq_along (length : mask.length = b.dim) (x : Point Float) :
    b.clip x = along (fun p : Bool × Interval Float => p.2.clamp) (mask.zip b.sides) x := by
  have sides (marks : List (Bool × Interval Float)) (x : Point Float) :
      clipSides (marks.map Prod.snd) x = along (fun p => p.2.clamp) marks x := by
    induction marks generalizing x with
    | nil => cases x <;> rfl
    | cons p marks ih =>
        cases x with
        | nil => rfl
        | cons v x => simp only [List.map_cons, clipSides, along, ih]
  rw [← sides, List.map_snd_zip (length.ge), clip]

theorem clip_clip (length : mask.length = b.dim) (x : Point Float) :
    b.clip (b.clip x) = b.clip x := by
  simp only [clip_eq_along length, along_along]
  exact along_ext (fun p _ => p.2.clamp_clamp) x

/-- A point that is repaired and then clipped. -/
theorem clip_wholeMarked (length : mask.length = b.dim) (x : Point Float) :
    b.clip (Repair.wholeMarked (mask.zip b.sides) x) =
      along (fun p v => p.2.clamp (Repair.wholeAt p v)) (mask.zip b.sides) x := by
  rw [clip_eq_along length, Repair.wholeMarked_eq_along, along_along]

/-- **A point that was repaired and clipped is left as it is by both.** -/
theorem clip_wholeMarked_idem (h : b.Finite) (length : mask.length = b.dim) (x : Point Float) :
    b.clip (Repair.wholeMarked (mask.zip b.sides)
      (b.clip (Repair.wholeMarked (mask.zip b.sides) x))) =
      b.clip (Repair.wholeMarked (mask.zip b.sides) x) := by
  simp only [clip_wholeMarked length, along_along]
  refine along_ext (fun p hp v => ?_) x
  have finite := h.marked hp
  obtain ⟨marked, s⟩ := p
  cases marked with
  | true => simp only [Repair.wholeAt_true, Repair.clamp_wholeIn_idem finite]
  | false => simp only [Repair.wholeAt_false, s.clamp_clamp]

end Box

end BoxSearch

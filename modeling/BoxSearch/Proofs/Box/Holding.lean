import BoxSearch.Box
import BoxSearch.Proofs.Energy.Order

/-!
# What a box promises

Moving a point into a box leaves no coordinate outside its interval.  On doubles this is not
quite the same as being inside: a missing coordinate is neither below the lower end nor above
the upper one, and clipping passes over it, unless the interval is fixed.  `Interval.Holds`
says what is left: nothing outside, everything inside that is a number, and the very end in a
fixed interval.

* `Box.holds_clip` — a point of the right dimension is held by the box after clipping;
* `Box.clip?_eq` — the clamp of the machine, which has no answer when its ends are not in
  order, always has one here, since the ends of an interval are.
-/

namespace BoxSearch

/-! ## Intervals -/

namespace Interval

/-- A coordinate does not escape from an interval. -/
structure Holds (s : Interval Float) (v : Float) : Prop where
  /-- it is not below the interval -/
  not_below : ¬ v < s.lower
  /-- it is not above it -/
  not_above : ¬ s.upper < v
  /-- it lies in the interval if it is a number -/
  inside : v.isNaN = false → s.contains v = true
  /-- in a fixed interval it is the end, and a number -/
  fixed : (s.lower == s.upper) = true → v = s.lower ∧ v.isNaN = false

variable (s : Interval Float) (v : Float)

theorem number_lower : s.lower.isNaN = false := (Double.le_iff.1 s.lower_le_upper).1

theorem number_upper : s.upper.isNaN = false := (Double.le_iff.1 s.lower_le_upper).2.1

theorem contains_iff : s.contains v = true ↔ s.lower ≤ v ∧ v ≤ s.upper := decide_eq_true_iff

theorem isFree_iff : s.isFree = true ↔ s.lower < s.upper := decide_eq_true_iff

/-- An interval with equal ends is not free. -/
theorem not_beq_of_isFree (free : s.isFree = true) : ¬ (s.lower == s.upper) = true := by
  intro equal
  exact absurd (Double.beq_iff.1 equal).2.2 ((Double.lt_iff.1 (s.isFree_iff.1 free)).2.2.ne)

/-- The ends are held. -/
theorem holds_lower : s.Holds s.lower where
  not_below := Double.lt_irrefl _
  not_above h := Double.not_le_of_lt h s.lower_le_upper
  inside number := (s.contains_iff _).2 ⟨Double.le_refl_iff.2 number, s.lower_le_upper⟩
  fixed _ := ⟨rfl, s.number_lower⟩

theorem contains_lower : s.contains s.lower = true := s.holds_lower.inside s.number_lower

/-- What is between the ends of a free interval, or missing, is held. -/
theorem holds_of_free (free : s.isFree = true) (below : ¬ v < s.lower) (above : ¬ s.upper < v) :
    s.Holds v where
  not_below := below
  not_above := above
  inside number := (s.contains_iff v).2
    ⟨(Double.not_lt_iff number s.number_lower).1 below,
      (Double.not_lt_iff s.number_upper number).1 above⟩
  fixed equal := absurd equal (s.not_beq_of_isFree free)

/-- **A clamped coordinate is held**, whatever it was. -/
theorem holds_clamp : s.Holds (s.clamp v) := by
  unfold clamp
  cases free : s.isFree with
  | false => exact s.holds_lower
  | true =>
      rw [if_pos rfl]
      by_cases below : v < s.lower
      · rw [if_pos below]
        exact s.holds_lower
      rw [if_neg below]
      by_cases above : s.upper < v
      · rw [if_pos above]
        exact s.holds_of_free _ free (Double.not_lt_iff s.number_upper s.number_lower |>.2
          s.lower_le_upper) (Double.lt_irrefl _)
      · rw [if_neg above]
        exact s.holds_of_free v free below above

end Interval

/-! ## Boxes -/

namespace Box

/-- A point is inside when it has the dimension and its coordinates are in their intervals. -/
theorem contains_iff {b : Box Float} {x : Point Float} : b.contains x = true ↔
    x.length = b.dim ∧ ∀ (j : Nat) (s : Interval Float) (v : Float), b.sides[j]? = some s →
      x[j]? = some v → s.contains v = true := by
  unfold Box.contains
  rw [Bool.and_eq_true, decide_eq_true_iff, List.all_eq_true]
  refine and_congr_right fun _ => ⟨fun all j s v hs hv => ?_, fun all sv hsv => ?_⟩
  · exact all (s, v) (List.mem_of_getElem? (List.getElem?_zip_eq_some.2 ⟨hs, hv⟩))
  · obtain ⟨j, hj⟩ := List.getElem?_of_mem hsv
    obtain ⟨hs, hv⟩ := List.getElem?_zip_eq_some.1 hj
    exact all j _ _ hs hv

/-- The box of one interval is accepted. -/
theorem ofEnds_interval (s : Interval Float) : ofEnds [s.lower] [s.upper] = .ok ⟨[s]⟩ := by
  show (intervals 0 [(s.lower, s.upper)]).map Box.mk = _
  rw [intervals, dif_pos s.lower_le_upper]
  rfl

/-- A box holds a point: there is one coordinate per dimension, and none of them escapes. -/
def Holds (b : Box Float) (x : Point Float) : Prop := List.Forall₂ Interval.Holds b.sides x

theorem Holds.length {b : Box Float} {x : Point Float} (h : b.Holds x) : x.length = b.dim :=
  (List.Forall₂.length_eq h).symm

theorem holds_clipSides {sides : List (Interval Float)} {x : Point Float}
    (h : x.length = sides.length) : List.Forall₂ Interval.Holds sides (clipSides sides x) := by
  induction sides generalizing x with
  | nil =>
      rw [List.eq_nil_of_length_eq_zero h]
      exact .nil
  | cons s sides ih =>
      cases x with
      | nil => cases h
      | cons v x => exact .cons (s.holds_clamp v) (ih (Nat.succ.inj h))

/-- **A clipped point is held by the box**, whatever its coordinates were. -/
theorem holds_clip {b : Box Float} {x : Point Float} (h : x.length = b.dim) :
    b.Holds (b.clip x) := holds_clipSides h

end Box

/-! ## The clamp of the machine -/

/-- The clamp of machine arithmetic has no answer when its ends are not in order, as when one
of them is missing. -/
def Double.clamp? (v lower upper : Float) : Option Float :=
  if lower ≤ upper then some (if v < lower then lower else if upper < v then upper else v)
  else none

/-- A coordinate moved into an interval by the clamp of the machine. -/
def Interval.clamp? (s : Interval Float) (v : Float) : Option Float :=
  if s.isFree then Double.clamp? v s.lower s.upper else some s.lower

theorem Interval.clamp?_eq (s : Interval Float) (v : Float) : s.clamp? v = some (s.clamp v) := by
  unfold clamp? clamp Double.clamp?
  rw [if_pos s.lower_le_upper]
  cases s.isFree <;> rfl

namespace Box

/-- A point moved into a box by the clamp of the machine, coordinate by coordinate. -/
def clipSides? : List (Interval Float) → Point Float → Option (Point Float)
  | s :: sides, v :: x => do
    let v ← s.clamp? v
    let x ← clipSides? sides x
    some (v :: x)
  | _, x => some x

/-- A point moved into a box by the clamp of the machine. -/
def clip? (b : Box Float) (x : Point Float) : Option (Point Float) := clipSides? b.sides x

theorem clipSides?_eq (sides : List (Interval Float)) (x : Point Float) :
    clipSides? sides x = some (clipSides sides x) := by
  induction sides generalizing x with
  | nil => rfl
  | cons s sides ih =>
      cases x with
      | nil => rfl
      | cons v x =>
          simp only [clipSides?, s.clamp?_eq, ih, Option.bind_eq_bind, Option.bind_some]
          rfl

/-- **Clipping always has an answer.** -/
theorem clip?_eq (b : Box Float) (x : Point Float) : b.clip? x = some (b.clip x) :=
  clipSides?_eq b.sides x

end Box
end BoxSearch

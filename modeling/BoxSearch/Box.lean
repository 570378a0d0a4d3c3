import BoxSearch.Error
import BoxSearch.Scalar

/-!
# Boxes

The search takes place in a box: one interval per dimension, given by its two
ends.  That the lower end is at most the upper one is part of the type, so an
end that is no number never gets into a box.  An interval whose ends coincide is
fixed: every point of the box has that coordinate there.

`Box.clip` moves a point into the box, coordinate by coordinate.  It passes over
a coordinate that compares with nothing, unless the interval is fixed; a point
that is too long keeps its surplus and a short one is not extended.
-/

namespace BoxSearch

/-! ## Intervals -/

/-- The coordinates between two ends, ends included. -/
structure Interval (α : Type) [Scalar α] where
  /-- the lower end -/
  lower : α
  /-- the upper end -/
  upper : α
  /-- the ends are in order -/
  lower_le_upper : lower ≤ upper

namespace Interval

variable {α : Type} [Scalar α]

/-- An interval is free when its ends differ. -/
def isFree (s : Interval α) : Bool := s.lower < s.upper

/-- The distance between the ends. -/
def span (s : Interval α) : α := s.upper - s.lower

/-- The point half-way between the ends. -/
def center (s : Interval α) : α := (s.lower + s.upper) * Scalar.half

/-- Whether a coordinate lies in the interval. -/
def contains (s : Interval α) (x : α) : Bool := s.lower ≤ x ∧ x ≤ s.upper

/-- The coordinate of the interval nearest to `x`. -/
def clamp (s : Interval α) (x : α) : α :=
  if s.isFree then
    if x < s.lower then s.lower else if s.upper < x then s.upper else x
  else s.lower

end Interval

/-! ## Boxes -/

/-- One interval per dimension. -/
structure Box (α : Type) [Scalar α] where
  /-- the intervals, in the order of the dimensions -/
  sides : List (Interval α)

namespace Box

variable {α : Type} [Scalar α]

/-- Pairs the ends up, or names the first dimension, counted from `index`, in
which they are not in order. -/
def intervals : Nat → List (α × α) → Except SolverError (List (Interval α))
  | _, [] => .ok []
  | index, (lower, upper) :: rest =>
    if h : lower ≤ upper then (intervals (index + 1) rest).map (⟨lower, upper, h⟩ :: ·)
    else .error (.invalidBounds index (Scalar.toFloat lower) (Scalar.toFloat upper))

/-- The box with the given pairs of ends. -/
def ofPairs (pairs : List (α × α)) : Except SolverError (Box α) :=
  (intervals 0 pairs).map Box.mk

/-- The box with the given lower and upper ends. -/
def ofEnds (lower upper : List α) : Except SolverError (Box α) :=
  if lower.length = upper.length then ofPairs (lower.zip upper)
  else .error (.boundsMismatch lower.length upper.length)

/-- The number of dimensions. -/
def dim (b : Box α) : Nat := b.sides.length

/-- The lower ends. -/
def lower (b : Box α) : Point α := b.sides.map (·.lower)

/-- The upper ends. -/
def upper (b : Box α) : Point α := b.sides.map (·.upper)

/-- The distances between the ends. -/
def span (b : Box α) : Point α := b.sides.map (·.span)

/-- Which dimensions are free. -/
def free (b : Box α) : List Bool := b.sides.map (·.isFree)

/-- The number of free dimensions. -/
def freeCount (b : Box α) : Nat := b.free.count true

/-- The middle of the box. -/
def center (b : Box α) : Point α := b.sides.map (·.center)

/-- Whether a point lies in the box. -/
def contains (b : Box α) (x : Point α) : Bool :=
  x.length = b.dim && (b.sides.zip x).all fun (s, v) => s.contains v

/-- Clamps the coordinates that have an interval. -/
def clipSides : List (Interval α) → Point α → Point α
  | s :: sides, v :: x => s.clamp v :: clipSides sides x
  | _, x => x

/-- A point moved into the box. -/
def clip (b : Box α) (x : Point α) : Point α := clipSides b.sides x

end Box

/-! ## The default box -/

/-- The range of a coordinate about which nothing is known: from -1000 to 1000. -/
def Interval.default {α : Type} [Scalar α] : Interval α :=
  ⟨-(Scalar.ofNat 1000), Scalar.ofNat 1000, Scalar.thousand_ordered⟩

/-- The box in which an unbounded search draws its first points. -/
def Box.default {α : Type} [Scalar α] (dim : Nat) : Box α :=
  ⟨List.replicate dim Interval.default⟩

end BoxSearch

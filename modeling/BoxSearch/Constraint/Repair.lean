import BoxSearch.Box

/-!
# Repairs

A repair moves a point back into the feasible set before it is evaluated, and is
meant to leave a feasible point where it is.  There are three kinds, and chains
of them:

* clipping into a box,
* rounding marked coordinates to whole numbers inside their intervals,
* any function of the user.

Rounding goes to the nearest whole number.  One that falls below the lower end is
replaced by the first whole number above that end, and one that is then above the
upper end by the last whole number below that one.
-/

namespace BoxSearch

/-- A rule that moves points into the feasible set. -/
inductive Repair (α : Type) [Scalar α] where
  /-- into a box -/
  | clip (box : Box α)
  /-- marked coordinates to whole numbers inside their intervals -/
  | whole (sides : List (Bool × Interval α))
  /-- by a function of the user -/
  | custom (f : Point α → Point α)
  /-- by one rule after the other -/
  | chain (rules : List (Repair α))

namespace Repair

variable {α : Type} [Scalar α]

/-- Rounding of the coordinates marked in a mask, one mark for each side. -/
def integrality (mask : List Bool) (box : Box α) : Except SolverError (Repair α) :=
  if mask.length = box.dim then .ok (.whole (mask.zip box.sides))
  else .error (.dimensionMismatch "integrality mask" box.dim mask.length)

/-- The whole number of an interval to which a coordinate is rounded. -/
def wholeIn (s : Interval α) (x : α) : α :=
  let v := Scalar.round x
  let v := if v < s.lower then Scalar.ceil s.lower else v
  if s.upper < v then Scalar.floor s.upper else v

/-- Rounds the marked coordinates; coordinates without a mark are left alone. -/
def wholeMarked : List (Bool × Interval α) → Point α → Point α
  | (marked, s) :: sides, v :: x =>
    (if marked then wholeIn s v else v) :: wholeMarked sides x
  | _, x => x

mutual

/-- The repaired point. -/
def apply : Repair α → Point α → Point α
  | .clip box, x => box.clip x
  | .whole sides, x => wholeMarked sides x
  | .custom f, x => f x
  | .chain rules, x => applyAll rules x

/-- The point after one rule after the other. -/
def applyAll : List (Repair α) → Point α → Point α
  | [], x => x
  | r :: rules, x => applyAll rules (apply r x)

end

end Repair

end BoxSearch

import BoxSearch.Double

/-!
# Coordinates

The points of a search are lists of coordinates.  Every rule of the search that
touches coordinates, from drawing a population to shrinking a mesh, uses only
the operations collected here, so that one definition runs on doubles and can
also be read over the rational numbers, where the arithmetic is exact.

* `Scalar α` lists the operations: the field operations, the order, absolute
  value, rounding to a whole number, and the embedding of natural numbers and
  of dyadic fractions.
* the instance on `Float` is the machine arithmetic, the one on `Rat` the exact
  one.

Energies, the values of an objective, are always doubles: they are compared and
never combined with coordinates.
-/

namespace BoxSearch

/-- The arithmetic of coordinates. -/
class Scalar (α : Type) extends Add α, Sub α, Mul α, Div α, Neg α, LT α, LE α, BEq α where
  /-- the order is decided -/
  ltDecidable : DecidableLT α
  /-- the order is decided -/
  leDecidable : DecidableLE α
  /-- the natural number `n` -/
  ofNat : Nat → α
  /-- `dyadic m k` is the fraction `m / 2 ^ k` -/
  dyadic : Nat → Nat → α
  /-- the distance from zero -/
  abs : α → α
  /-- the largest whole number that is not above -/
  floor : α → α
  /-- the smallest whole number that is not below -/
  ceil : α → α
  /-- the nearest whole number, a half away from zero -/
  round : α → α
  /-- the reading on the scale of energies, for tolerances and texts -/
  toFloat : α → Float
  /-- the default range of a coordinate is an interval -/
  thousand_ordered : -(ofNat 1000) ≤ ofNat 1000

namespace Scalar

variable {α : Type} [Scalar α]

instance : DecidableLT α := Scalar.ltDecidable

instance : DecidableLE α := Scalar.leDecidable

/-- Nothing. -/
def zero : α := Scalar.ofNat 0

/-- A half. -/
def half : α := Scalar.dyadic 1 1

/-- The sum of a list, added from the left.  The empty sum is the negative zero, to
which any first number can be added without a trace. -/
def sum (xs : List α) : α := xs.foldl (· + ·) (-zero)

/-- The larger of two coordinates; one that compares with nothing gives way. -/
def larger (a b : α) : α :=
  if a < b then b else if a ≤ a then a else b

end Scalar

/-- Machine arithmetic: a natural number below `2 ^ 64` is taken to the nearest
double, and a dyadic fraction is the quotient of two of them. -/
instance : Scalar Float where
  ltDecidable := inferInstance
  leDecidable := inferInstance
  ofNat n := (UInt64.ofNat n).toFloat
  dyadic m k := (UInt64.ofNat m).toFloat / (UInt64.ofNat (Nat.pow 2 k)).toFloat
  abs := Float.abs
  floor := Double.floor
  ceil := Double.ceil
  round := Double.round
  toFloat x := x
  thousand_ordered := by decide +kernel

/-- Exact arithmetic. -/
instance : Scalar Rat where
  ltDecidable := inferInstance
  leDecidable := inferInstance
  ofNat n := (n : Rat)
  dyadic m k := (m : Rat) / (Nat.pow 2 k : Nat)
  abs x := if x < 0 then -x else x
  floor x := (x.floor : Rat)
  ceil x := (x.ceil : Rat)
  round x := if x < 0 then ((x - 1 / 2).ceil : Rat) else ((x + 1 / 2).floor : Rat)
  toFloat x := Float.ofInt x.num / Float.ofNat x.den
  thousand_ordered := by decide +kernel

/-- A point of the search: one coordinate per dimension. -/
abbrev Point (α : Type) := List α

end BoxSearch

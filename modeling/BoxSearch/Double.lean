/-!
# Exact steps on doubles

A double is a sign, a significand and a power of two.  Three operations of this
library need that exact view rather than the rounded operators: rounding to a
whole number, the fused multiply-add of a running variance, and the writing of
decimal digits.  This file opens a double into its parts, closes exact parts
into the nearest double (ties to the even significand), and builds the first two
of those operations on the pair.

`larger` is the maximum that passes over a missing number: a NaN on either side
gives way to the other side.
-/

namespace BoxSearch

namespace Double

open Float.Model (UnpackedFloat)

/-! ## Opening and closing -/

/-- The parts of a double: a signed zero, a signed infinity, no number, or
`± m · 2 ^ e` with `m` positive. -/
def parts (x : Float) : UnpackedFloat := x.toModel.unpack

/-- The double with the given parts. -/
def ofParts (u : UnpackedFloat) : Float := Float.ofModel (.pack u)

/-- The double nearest to `± m · 2 ^ e`, ties to the even significand; the sign
is kept when the result is zero. -/
def nearest (sign : UnpackedFloat.Sign) (m : Nat) (e : Int) : Float :=
  if m = 0 then ofParts (.zero sign) else ofParts (.round .binary64 sign m e)

/-- No number at all. -/
def nan : Float := 0.0 / 0.0

/-- Positive infinity, the energy of a point that was never evaluated. -/
def infinity : Float := 1.0 / 0.0

/-- The smallest positive double with a full significand. -/
def smallestNormal : Float := Float.ofBits 0x0010000000000000

/-- Neither an infinity nor a missing number. -/
def isFinite (x : Float) : Bool :=
  match parts x with
  | .zero _ | .finite .. => true
  | .infinity _ | .notANumber => false

/-! ## Whole numbers -/

/-- The direction in which a fraction is brought to a whole number. -/
inductive Direction where
  /-- towards negative infinity -/
  | down
  /-- towards positive infinity -/
  | up
  /-- to the nearest, a half away from zero -/
  | halfAway
  deriving DecidableEq, Repr

/-- The magnitude of `± m / 2 ^ k` brought to a whole number. -/
def wholeMagnitude (direction : Direction) (sign : UnpackedFloat.Sign) (m k : Nat) : Nat :=
  let q := m / Nat.pow 2 k
  let above := if m % Nat.pow 2 k = 0 then q else q + 1
  match direction, sign with
  | .down, .positive => q
  | .down, .negative => above
  | .up, .positive => above
  | .up, .negative => q
  | .halfAway, _ => (2 * m + Nat.pow 2 k) / Nat.pow 2 (k + 1)

/-- A double brought to a whole number; the sign survives a result of zero, and
infinities and missing numbers are left alone. -/
def toWhole (direction : Direction) (x : Float) : Float :=
  match parts x with
  | .finite sign m e _ =>
    if 0 ≤ e then x else nearest sign (wholeMagnitude direction sign m (-e).toNat) 0
  | _ => x

/-- The largest whole number that is not above `x`. -/
def floor (x : Float) : Float := toWhole .down x

/-- The smallest whole number that is not below `x`. -/
def ceil (x : Float) : Float := toWhole .up x

/-- The whole number nearest to `x`; a half goes away from zero. -/
def round (x : Float) : Float := toWhole .halfAway x

/-! ## Fused multiply-add and maximum -/

/-- The sum of the exact product `a · b` and `c`, rounded once.  When one of the
three is no ordinary nonzero number the product or the sum is exact already. -/
def fusedMulAdd (a b c : Float) : Float :=
  match parts a, parts b, parts c with
  | .finite s₁ m₁ e₁ _, .finite s₂ m₂ e₂ _, .finite s m e _ =>
    let low := min (e₁ + e₂) e
    let product : Int := (s₁ * s₂).apply ((m₁ * m₂ : Nat) <<< (e₁ + e₂ - low).toNat : Nat)
    let addend : Int := s.apply ((m <<< (e - low).toNat : Nat) : Int)
    ofParts (.normalize .binary64 (product + addend) low .positive)
  | .finite .., .finite .., .zero _ => a * b
  | .finite .., .finite .., .infinity _ => c
  | _, _, _ => a * b + c

/-- The larger of two numbers; a missing number gives way to the other side, and of two
equal ones, which can be zeros of different signs, the second one is taken. -/
def larger (a b : Float) : Float :=
  if a.isNaN || a ≤ b then b else a

end Double

end BoxSearch

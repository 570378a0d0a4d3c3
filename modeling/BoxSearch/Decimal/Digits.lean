import BoxSearch.Double

/-!
# Decimal digits of a double

A positive double is the exact number `m · 2 ^ e`.  Two ways of choosing digits
for it are defined here, both in exact arithmetic on natural numbers.

* `shortest` is the decimal with the fewest digits among those that read back as
  the same double, and of those the nearest; a `Tie` says which of two equally near
  ones is taken.  The numbers that read back as the
  double form an interval around it whose ends are the midpoints to its two
  neighbours; the ends belong to it when the significand is even.  On each
  decimal grid, from the coarsest on, only the two grid points next to the double
  can be the answer.
* `roundDiv` rounds a quotient to a whole number, ties to even; rounding to a
  given number of places or of significant digits is a quotient on the right
  grid.
-/

namespace BoxSearch

/-- The number `digits · 10 ^ exponent`. -/
structure Decimal where
  /-- the digits, as a whole number -/
  digits : Nat
  /-- the place of the last digit -/
  exponent : Int
  deriving DecidableEq, Repr

/-- Which of two equally near decimals with neighbouring digits is taken. -/
inductive Tie where
  /-- the one with the even last digit -/
  | toEven
  /-- the larger one -/
  | upward
  deriving DecidableEq, Repr

namespace Tie

/-- The one of `c` and `c + 1` that is taken. -/
def choose (t : Tie) (c : Nat) : Nat :=
  match t with
  | .toEven => if c % 2 = 0 then c else c + 1
  | .upward => c + 1

end Tie

namespace Decimal

/-- The decimal without zeros at its end. -/
def trimmed : Nat → Decimal → Decimal
  | 0, d => d
  | fuel + 1, d =>
    if d.digits ≠ 0 ∧ d.digits % 10 = 0 then trimmed fuel ⟨d.digits / 10, d.exponent + 1⟩ else d

/-- A quotient rounded to a whole number; a half goes to the even neighbour. -/
def roundDiv (num den : Nat) : Nat :=
  let q := num / den
  let r := num % den
  if 2 * r < den then q
  else if den < 2 * r then q + 1
  else Tie.toEven.choose q

/-- `2 ^ e / 10 ^ k` as a numerator and a denominator. -/
def gridRatio (e k : Int) : Nat × Nat :=
  (Nat.pow 2 e.toNat * Nat.pow 10 (-k).toNat, Nat.pow 2 (-e).toNat * Nat.pow 10 k.toNat)

/-- The number `k` with `10 ^ k ≤ m · 2 ^ e < 10 ^ (k + 1)`, for positive `m`:
the estimate from the binary logarithm is off by at most one. -/
def leadingPlace (m : Nat) (e : Int) : Int :=
  let estimate := ((m.log2 + e) * 30103) / 100000
  let atLeast (k : Int) : Bool :=
    let (p, q) := gridRatio e k
    q ≤ m * p
  if atLeast (estimate + 1) then estimate + 1
  else if atLeast estimate then estimate
  else estimate - 1

/-! ## Fewest digits -/

/-- The ends of the interval of numbers that read back as `m · 2 ^ e`, in units
of `2 ^ (e - 2)`.  Below a power of two the neighbour is half as far away. -/
def readBackInterval (m : Nat) (e : Int) : Nat × Nat :=
  (if m = Nat.pow 2 52 ∧ -1074 < e then 4 * m - 1 else 4 * m - 2, 4 * m + 2)

/-- Searches the grids with `17 - fuel + 1`, … digits for a number that reads back. -/
def search (tie : Tie) (m : Nat) (e place : Int) : Nat → Decimal
  | 0 => ⟨m, 0⟩
  | fuel + 1 =>
    let k := place - (17 - (fuel + 1 : Int))
    let (p, q) := gridRatio (e - 2) k
    let (low, high) := readBackInterval m e
    let inside (c : Nat) : Bool :=
      if m % 2 = 0 then low * p ≤ c * q ∧ c * q ≤ high * p else low * p < c * q ∧ c * q < high * p
    let value := 4 * m * p
    let c := value / q
    let below := value - c * q
    let above := (c + 1) * q - value
    match inside c, inside (c + 1) with
    | true, false => ⟨c, k⟩
    | false, true => ⟨c + 1, k⟩
    | true, true =>
      if below < above then ⟨c, k⟩
      else if above < below then ⟨c + 1, k⟩
      else ⟨tie.choose c, k⟩
    | false, false => search tie m e place fuel

/-- The shortest decimal that reads back as `m · 2 ^ e`, for positive `m`.
Seventeen digits always suffice. -/
def shortest (tie : Tie) (m : Nat) (e : Int) : Decimal :=
  trimmed 20 (search tie m e (leadingPlace m e) 17)

/-! ## A given number of digits -/

/-- `m · 2 ^ e` in units of `10 ^ (-places)`, rounded. -/
def toPlaces (places m : Nat) (e : Int) : Nat :=
  let (p, q) := gridRatio e (-places)
  roundDiv (m * p) q

/-- `m · 2 ^ e` with `places + 1` significant digits, rounded, for positive `m`;
a carry into a new leading digit moves the place. -/
def toSignificant (places m : Nat) (e : Int) : Decimal :=
  let lead := leadingPlace m e
  let (p, q) := gridRatio e (lead - places)
  let c := roundDiv (m * p) q
  if c = Nat.pow 10 (places + 1) then ⟨Nat.pow 10 places, lead + 1 - places⟩ else ⟨c, lead - places⟩

end Decimal

end BoxSearch

import BoxSearch.Error
import BoxSearch.Scalar

/-!
# Benchmark functions

Functions with known minima, on which searches are measured.  Those built from
field operations alone are stated for any coordinates, so that they can also be
read over the rational numbers; the others are functions of doubles.

A function of two variables reads the first two coordinates of its point and has
no value when one of them is missing; the functions of any number of variables
have a value everywhere.
-/

namespace BoxSearch

namespace Benchmark

section

variable {α : Type} [Scalar α]

/-- The natural number `n` as a coordinate. -/
def num (n : Nat) : α := Scalar.ofNat n

/-- The square. -/
def square (x : α) : α := x * x

/-- The first two coordinates of a point, or the place of the first one missing. -/
def firstTwo (x : Point α) : Except Fault (α × α) :=
  match x with
  | a :: b :: _ => .ok (a, b)
  | short => .error (.indexOutOfRange short.length short.length)

/-- A function of the first two coordinates. -/
def ofTwo {β : Type} (f : α → α → β) (x : Point α) : Except Fault β :=
  (firstTwo x).map fun (a, b) => f a b

/-! ## One minimum -/

/-- The sum of the squares; its minimum is 0, at the origin. -/
def sphere (x : Point α) : α := Scalar.sum (x.map square)

/-- The sphere under another name. -/
def quadratic (x : Point α) : α := Scalar.sum (x.map square)

/-- The banana-shaped valley; its minimum is 0, at the point of ones. -/
def rosenbrock (x : Point α) : α :=
  Scalar.sum (List.zipWith
    (fun a b => num 100 * square (b - a * a) + square (num 1 - a)) x (x.drop 1))

/-- The sums of the first coordinates, `start` being the sum so far. -/
def partialSums (start : α) : Point α → List α
  | [] => []
  | v :: x => (start + v) :: partialSums (start + v) x

/-- The sum of the squared partial sums; its minimum is 0, at the origin. -/
def rotatedHyperEllipsoid (x : Point α) : α :=
  (partialSums Scalar.zero x).foldl (fun total p => total + p * p) Scalar.zero

/-- A plate; its minimum is 0, at the origin. -/
def zakharov (x : Point α) : α :=
  let weighted := Scalar.sum (x.mapIdx fun i v => Scalar.half * (num i + num 1) * v)
  Scalar.sum (x.map square) + square weighted + square (square weighted)

/-- A plate in two variables; its minimum is 0, at (1, 3). -/
def booth (x : Point α) : Except Fault α :=
  ofTwo (fun a b => square (a + num 2 * b - num 7) + square (num 2 * a + b - num 5)) x

/-! ## Two variables -/

/-- Four minima of 0. -/
def himmelblau (x : Point α) : Except Fault α :=
  ofTwo (fun a b => square (a * a + b - num 11) + square (a + b * b - num 7)) x

/-- The banana-shaped valley in two variables. -/
def rosenbrockPair (x : Point α) : Except Fault α :=
  ofTwo (fun a b => square (num 1 - a) + num 100 * square (b - a * a)) x

/-- At most 0 inside the disk of radius `√2` around the origin. -/
def diskConstraint (x : Point α) : Except Fault α :=
  ofTwo (fun a b => a * a + b * b - num 2) x

/-- The first objective of Binh and Korn. -/
def binhKorn (x : Point α) : Except Fault α :=
  ofTwo (fun a b => num 4 * a * a + num 4 * b * b) x

/-- At most 0 inside the disk of radius 5 around (5, 0). -/
def binhKornInside (x : Point α) : Except Fault α :=
  ofTwo (fun a b => square (a - num 5) + b * b - num 25) x

end

/-! ## Functions of doubles -/

/-- At most 0 outside a disk around (8, -3). -/
def binhKornOutside (x : Point Float) : Except Fault Float :=
  ofTwo (fun a b => 7.7 - square (a - 8.0) - square (b + 3.0)) x

/-- Half the circumference of the unit circle. -/
def pi : Float := 3.141592653589793

/-- The base of the natural logarithm. -/
def euler : Float := 2.718281828459045

/-- The number of coordinates, as a double. -/
def count (x : Point Float) : Float := Scalar.ofNat x.length

/-- A deep hole in a plain full of ripples; its minimum is 0, at the origin. -/
def ackley (x : Point Float) : Float :=
  let n := count x
  let squares := Scalar.sum (x.map square)
  let cosines := Scalar.sum (x.map fun v => (2.0 * pi * v).cos)
  (-20.0) * (-0.2 * (squares / n).sqrt).exp - (cosines / n).exp + 20.0 + euler

/-- A lattice of minima; the lowest is 0, at the origin. -/
def rastrigin (x : Point Float) : Float :=
  10.0 * count x + Scalar.sum (x.map fun v => v * v - 10.0 * (2.0 * pi * v).cos)

/-- A bowl with ripples; its minimum is 0, at the origin. -/
def griewank (x : Point Float) : Float :=
  let bowl := Scalar.sum (x.map fun v => v * v / 4000.0)
  let ripples := (x.mapIdx fun i v =>
    (v / (Scalar.ofNat (i + 1) : Float).sqrt).cos).foldl (· * ·) 1.0
  bowl - ripples + 1.0

/-- Six minima in two variables, two of them lowest. -/
def sixHumpCamel (x : Point Float) : Except Fault Float :=
  ofTwo (fun a b =>
    (4.0 - 2.1 * a * a + square (square a) / 3.0) * a * a + a * b +
      (-4.0 + 4.0 * b * b) * b * b) x

/-! ## Fitting a polynomial -/

/-- The coefficients of the Chebyshev polynomial of order 8, highest power first. -/
def chebyshevCoefficients : Point Float :=
  [128.0, 0.0, -256.0, 0.0, 160.0, 0.0, -32.0, 0.0, 1.0]

/-- The value of a polynomial, its coefficients given from the highest power down. -/
def polynomial (coefficients : Point Float) (x : Float) : Float :=
  coefficients.foldl (fun value c => value * x + c) 0.0

/-- The places of the unit interval at which a polynomial is sampled: 61, evenly
spaced from -1 to 1. -/
def samplePlaces : List Float :=
  let spacing : Float := 2.0 / 60.0
  (List.range 61).map fun i => -1.0 + Scalar.ofNat i * spacing

/-- How far a polynomial is from staying between -1 and 1 on the unit interval and
growing as fast as the Chebyshev polynomial beyond it. -/
def chebyshevCost (coefficients : Point Float) : Float :=
  let inside := samplePlaces.foldl (fun cost x =>
    let p := polynomial coefficients x
    if -1.0 ≤ p && p ≤ 1.0 then cost else cost + (1.0 - p) * (1.0 - p)) 0.0
  [1.2, -1.2].foldl (fun cost x =>
    let short := polynomial coefficients x - polynomial chebyshevCoefficients x
    if short < 0.0 then cost + short * short else cost) inside

end Benchmark

end BoxSearch

import BoxSearch.Double

/-!
# Energies

The energy of a point is the value of the objective there, penalties included;
lower is better.  An energy may be infinite or missing (NaN).  This file holds
what a search reads off a list of energies: the place of the lowest one, the
mean and the standard deviation.

The two statistics fix the order of their additions, since a sum of doubles
depends on it: the mean adds in eight lanes, and the deviation follows the
running mean with one fused multiply-add per energy.
-/

namespace BoxSearch

namespace Energy

/-! ## The lowest energy -/

/-- Continues the scan for the lowest energy at place `i`, with the lowest place
and value so far. -/
def argminFrom : Nat → Nat × Float → List Float → Nat × Float
  | _, best, [] => best
  | i, best, e :: es => argminFrom (i + 1) (if e < best.2 then (i, e) else best) es

/-- The first place of the lowest energy, and that energy; a missing energy is
passed over.  Without any number the answer is place 0 and infinity. -/
def argmin (es : List Float) : Nat × Float := argminFrom 0 (0, Double.infinity) es

/-! ## Mean and deviation -/

/-- Adds full rows of eight to eight lanes; returns the lanes and the remainder. -/
def addLanes : List Float → List Float → List Float × List Float
  | lanes, a :: b :: c :: d :: e :: f :: g :: h :: rest =>
    addLanes (List.zipWith (· + ·) lanes [a, b, c, d, e, f, g, h]) rest
  | lanes, rest => (lanes, rest)

/-- The sum: full rows of eight are added lane by lane, lane `k` is joined to lane
`k + 4`, and the remaining energies follow one by one. -/
def sum (es : List Float) : Float :=
  let (lanes, rest) := addLanes (List.replicate 8 0.0) es
  let pairs := List.zipWith (· + ·) (lanes.take 4) (lanes.drop 4)
  rest.foldl (· + ·) (pairs.foldl (· + ·) 0.0)

/-- The number of energies, as a double. -/
def count (es : List Float) : Float := (UInt64.ofNat es.length).toFloat

/-- The mean; there is none of no energies. -/
def mean (es : List Float) : Option Float :=
  if es.isEmpty then none else some (sum es / count es)

/-- The running mean and sum of squared deviations after the energies `es`, the
first of which is the `i`-th. -/
def squares : Nat → Float × Float → List Float → Float × Float
  | _, acc, [] => acc
  | i, (mean, s), e :: es =>
    let delta := e - mean
    let mean := mean + delta / (UInt64.ofNat i).toFloat
    squares (i + 1) (mean, Double.fusedMulAdd (e - mean) delta s) es

/-- The standard deviation of the energies, all of them taken as the population. -/
def deviation (es : List Float) : Float :=
  ((squares 1 (0.0, 0.0) es).2 / count es).sqrt

end Energy

end BoxSearch

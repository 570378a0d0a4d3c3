import BoxSearch.Random.Source
import BoxSearch.Strategy.Variant

/-!
# Crossover

A trial takes each of its coordinates from the target or from the mutant, at
least one from the mutant.  The binomial kind decides coordinate by coordinate;
the exponential kind takes one run of coordinates, which may wrap around.

Both kinds first draw an index.  In the binomial kind that coordinate is taken
without a further draw and every other one by a draw of its own, in order.  In
the exponential kind the run starts there and grows while draws stay below the
crossover rate; no draw is made once every coordinate is in the run.
-/

namespace BoxSearch

namespace Crossover

variable {α γ : Type} [WordSource γ]

/-! ## Coordinate by coordinate -/

/-- Decides the coordinates from place `i` on; the one at place `always` is the
mutant's. -/
def binomialFrom (always : Nat) (rate : Float) :
    Nat → Point α → Point α → γ → Point α × γ
  | i, t :: target, m :: mutant, g =>
    if i = always then
      let (trial, g) := binomialFrom always rate (i + 1) target mutant g
      (m :: trial, g)
    else
      let (u, g) := WordSource.uniform (α := Float) g
      let (trial, g) := binomialFrom always rate (i + 1) target mutant g
      ((if u < rate then m else t) :: trial, g)
  | _, target, _, g => (target, g)

/-- The binomial trial. -/
def binomialTrial (rate : Float) (target mutant : Point α) (g : γ) : Point α × γ :=
  let (always, g) := WordSource.below target.length g
  binomialFrom always rate 0 target mutant g

/-! ## One run of coordinates -/

/-- The length of a run that may still grow by `room`: draws go on while they stay
below the rate. -/
def runLength (rate : Float) : Nat → γ → Nat × γ
  | 0, g => (1, g)
  | room + 1, g =>
    let (u, g) := WordSource.uniform (α := Float) g
    if rate ≤ u then (1, g)
    else
      let (n, g) := runLength rate room g
      (n + 1, g)

/-- Whether place `i` of `n` lies in the cyclic run of the given length from `start`. -/
def inRun (n start length i : Nat) : Bool := (i + n - start) % n < length

/-- The exponential trial. -/
def exponentialTrial (rate : Float) (target mutant : Point α) (g : γ) : Point α × γ :=
  let n := target.length
  let (start, g) := WordSource.below n g
  let (length, g) := runLength rate (n - 1) g
  let chosen := (List.range n).map (inRun n start length)
  (List.zipWith (fun (takes : Bool) (p : α × α) => if takes then p.2 else p.1) chosen
    (target.zip mutant), g)

/-- The trial of a target and its mutant. -/
def trial (c : Crossover) (rate : Float) (target mutant : Point α) (g : γ) : Point α × γ :=
  match c with
  | .binomial => binomialTrial rate target mutant g
  | .exponential => exponentialTrial rate target mutant g

end Crossover

end BoxSearch

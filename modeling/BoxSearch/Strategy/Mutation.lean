import BoxSearch.Random.Source
import BoxSearch.Strategy.Variant

/-!
# Mutation

A mutant is a member plus weighted differences of members.  The weight, the
mutation factor, is either fixed or drawn afresh for every trial from a range;
it must lie between 0 and 2.  `Formula.mutant` is the arithmetic of the six
formulas, coordinate by coordinate and in a fixed order of operations.
-/

namespace BoxSearch

/-! ## The factor -/

/-- How the mutation factor of a trial is found. -/
inductive Mutation (α : Type) where
  /-- the same factor for every trial -/
  | factor (f : α)
  /-- a factor drawn from the range, its lower end included -/
  | range (low high : α)
  deriving Repr

namespace Mutation

/-- The setting of a search about which nothing is said. -/
def standard : Mutation Float := .factor 0.8

/-- Whether a factor lies between 0 and 2. -/
def inRange (f : Float) : Bool := 0.0 ≤ f && f ≤ 2.0

/-- A setting is valid when its factors lie between 0 and 2 and its range is in
order; otherwise the offending factor is named. -/
def validate : Mutation Float → Except SolverError Unit
  | .factor f => if inRange f then .ok () else .error (.invalidMutationFactor f)
  | .range low high =>
    if !inRange low then .error (.invalidMutationFactor low)
    else if !inRange high || high < low then .error (.invalidMutationFactor high)
    else .ok ()

/-- The factor of one trial.  Nothing is drawn for a fixed factor, nor for a range
without room. -/
def sample {α γ : Type} [Scalar α] [WordSource γ] (m : Mutation α) (g : γ) : α × γ :=
  match m with
  | .factor f => (f, g)
  | .range low high => if low < high then WordSource.between low high g else (low, g)

end Mutation

/-! ## The formulas -/

namespace Point

variable {α : Type} [Scalar α]

/-- The sum of two points. -/
def add (x y : Point α) : Point α := List.zipWith (· + ·) x y

/-- The difference of two points. -/
def sub (x y : Point α) : Point α := List.zipWith (· - ·) x y

/-- A point with every coordinate multiplied by a factor. -/
def scale (x : Point α) (f : α) : Point α := x.map (· * f)

end Point

namespace Formula

variable {α : Type} [Scalar α]

/-- The mutant of a target: `best` is the best member, `picked` lists the members
picked for this trial, and `f` is the factor.  With fewer members than the
formula requires the mutant is the target itself. -/
def mutant (formula : Formula) (f : α) (current best : Point α) (picked : List (Point α)) :
    Point α :=
  match formula, picked with
  | .best1, a :: b :: _ => best.add ((a.sub b).scale f)
  | .rand1, a :: b :: c :: _ => a.add ((b.sub c).scale f)
  | .rand2, a :: b :: c :: d :: e :: _ => a.add ((((b.add c).sub d).sub e).scale f)
  | .currentToBest1, a :: b :: _ =>
    current.add (((best.sub current).add (a.sub b)).scale f)
  | .best2, a :: b :: c :: d :: _ => best.add ((((a.add b).sub c).sub d).scale f)
  | .randToBest1, a :: b :: c :: _ => a.add ((((best.sub a).add b).sub c).scale f)
  | _, _ => current

end Formula

end BoxSearch

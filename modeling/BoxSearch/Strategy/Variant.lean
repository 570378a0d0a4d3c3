import BoxSearch.Error
import BoxSearch.Text.LowerCase

/-!
# The variants of differential evolution

A variant is a mutation formula and a kind of crossover.  The formula says which
member the mutant starts from and which differences are added to it; its name
counts the differences.  There are six formulas and two crossovers, so twelve
variants, listed in `Variant.all`.

A name is read without regard to case or surrounding blanks, and the formulas
with a `to` in their name may be written with hyphens or underscores.
-/

namespace BoxSearch

/-- How a mutant is put together. -/
inductive Formula where
  /-- the best member and one difference -/
  | best1
  /-- a random member and one difference -/
  | rand1
  /-- a random member and two differences -/
  | rand2
  /-- the target, drawn to the best member, and one difference -/
  | currentToBest1
  /-- the best member and two differences -/
  | best2
  /-- a random member, drawn to the best one, and one difference -/
  | randToBest1
  deriving DecidableEq, Repr

/-- How a trial takes coordinates from the mutant. -/
inductive Crossover where
  /-- each coordinate for itself -/
  | binomial
  /-- one cyclic run of coordinates -/
  | exponential
  deriving DecidableEq, Repr

/-- A formula with a crossover. -/
structure Variant where
  /-- how a mutant is put together -/
  formula : Formula
  /-- how a trial takes coordinates from it -/
  crossover : Crossover
  deriving DecidableEq, Repr

namespace Formula

/-- The number of distinct members, other than the target, that a mutant needs. -/
def required : Formula → Nat
  | .best1 => 2
  | .currentToBest1 => 2
  | .rand1 => 3
  | .randToBest1 => 3
  | .best2 => 4
  | .rand2 => 5

/-- The name of a formula. -/
def name : Formula → String
  | .best1 => "best1"
  | .rand1 => "rand1"
  | .rand2 => "rand2"
  | .currentToBest1 => "currenttobest1"
  | .best2 => "best2"
  | .randToBest1 => "randtobest1"

/-- All spellings of a formula. -/
def spellings : Formula → List String
  | .currentToBest1 => ["currenttobest1", "current-to-best1", "current_to_best1"]
  | .randToBest1 => ["randtobest1", "rand-to-best1", "rand_to_best1"]
  | f => [f.name]

/-- Whether the name of the formula alone stands for its binomial variant. -/
def standsAlone : Formula → Bool
  | .best1 | .rand1 | .rand2 | .best2 => true
  | .currentToBest1 | .randToBest1 => false

/-- All formulas. -/
def all : List Formula := [.best1, .rand1, .rand2, .currentToBest1, .best2, .randToBest1]

end Formula

namespace Crossover

/-- The ending of a variant's name. -/
def suffix : Crossover → String
  | .binomial => "bin"
  | .exponential => "exp"

end Crossover

namespace Variant

/-- The variant of a search about which nothing is said. -/
def standard : Variant := ⟨.best1, .binomial⟩

/-- All variants, formula by formula. -/
def all : List Variant :=
  Formula.all.flatMap fun f => [⟨f, .binomial⟩, ⟨f, .exponential⟩]

/-- The name of a variant. -/
def name (v : Variant) : String := v.formula.name ++ v.crossover.suffix

/-- All names under which a variant is found. -/
def spellings (v : Variant) : List String :=
  v.formula.spellings.map (· ++ v.crossover.suffix) ++
    match v.crossover with
    | .binomial => if v.formula.standsAlone then [v.formula.name] else []
    | .exponential => []

/-- The number of distinct members, other than the target, that a trial needs. -/
def required (v : Variant) : Nat := v.formula.required

/-- The smallest population: the target, the members a trial needs, and one more. -/
def minPopulation (v : Variant) : Nat := v.required + 2

/-- The variant of a name. -/
def ofName (name : String) : Except SolverError Variant :=
  match all.find? fun v => v.spellings.contains (Text.nameKey name) with
  | some v => .ok v
  | none => .error (.configuration (.unknownStrategy name))

end Variant

end BoxSearch

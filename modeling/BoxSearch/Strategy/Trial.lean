import BoxSearch.Random.Shuffle
import BoxSearch.Random.Stream
import BoxSearch.State
import BoxSearch.Strategy.Crossover
import BoxSearch.Strategy.Mutation

/-!
# Trials

A `Strategy` turns the population into one trial point for a target member.  It
never changes the population, and all its randomness comes from the generator it
is handed; when it refuses, the generator is left where it was.

`Differential` is the strategy of differential evolution: a variant, a mutation
setting and a crossover rate.  A trial of it takes, in this order, the mutation
factor, the members, and the draws of the crossover from the source of words.
-/

namespace BoxSearch

/-! ## Strategies -/

/-- A way of making trial points. -/
structure Strategy (α : Type) where
  /-- the name shown in logs -/
  name : String
  /-- the number of distinct members, other than the target, taken for a trial -/
  required : Nat
  /-- the smallest population it accepts, if that is a count -/
  minPopulation : Except SolverError Nat
  /-- the trial for a target, from the population and its energies -/
  generate : Population α → List Float → Nat → Generator →
    Except SolverError (Point α × Generator)

/-- The smallest population for trials of so many members: the target, those members, and
one more. -/
def smallestPopulation (required : Nat) : Except SolverError Nat := Size.count (required + 2)

/-- Refuses a population smaller than a minimum. -/
def checkPopulation (minimum size : Nat) : Except SolverError Unit :=
  if size < minimum then .error (.insufficientPopulation minimum size) else .ok ()

/-! ## Differential evolution -/

/-- A strategy of differential evolution. -/
structure Differential (α : Type) where
  /-- formula and crossover -/
  variant : Variant
  /-- how the mutation factor is found -/
  mutation : Mutation α
  /-- the crossover rate -/
  rate : Float
  deriving Repr

namespace Differential

/-- A strategy with checked parameters. -/
def make (variant : Variant) (mutation : Mutation Float) (rate : Float) :
    Except SolverError (Differential Float) := do
  mutation.validate
  if 0.0 ≤ rate && rate ≤ 1.0 then .ok ⟨variant, mutation, rate⟩
  else .error (.invalidCrossoverRate rate)

/-- A strategy from the name of its variant, with checked parameters. -/
def parse (name : String) (mutation : Mutation Float) (rate : Float) :
    Except SolverError (Differential Float) := do
  make (← Variant.ofName name) mutation rate

variable {α γ : Type} [Scalar α] [WordSource γ]

/-- Refuses what no trial can be made from: too small a population, a target that
is no member, energies of another number than the members. -/
def check (d : Differential α) (population : Population α) (energies : List Float)
    (target : Nat) : Except SolverError Unit := do
  checkPopulation d.variant.minPopulation population.size
  if population.size ≤ target then
    .error (.configuration (.targetOutside target population.size))
  else if energies.length ≠ population.size then
    .error (.dimensionMismatch "energies" population.size energies.length)
  else if (population.row target).isEmpty then
    .error (.fault .emptyRange)
  else .ok ()

/-- The trial of a member: the mutant of the formula, crossed with the member. -/
def trial (d : Differential α) (population : Population α) (energies : List Float)
    (target : Nat) (g : γ) : Point α × γ :=
  let (f, g) := d.mutation.sample g
  let (picked, g) := Shuffle.distinctIndices target d.variant.required population.size g
  let best := (Energy.argmin energies).1
  let current := population.row target
  let mutant := d.variant.formula.mutant f current (population.row best)
    (picked.map population.row)
  d.variant.crossover.trial d.rate current mutant g

/-- The checked trial. -/
def generate (d : Differential α) (population : Population α) (energies : List Float)
    (target : Nat) (g : γ) : Except SolverError (Point α × γ) := do
  d.check population energies target
  .ok (d.trial population energies target g)

/-- As a strategy. -/
def toStrategy (d : Differential α) : Strategy α where
  name := d.variant.name
  required := d.variant.required
  minPopulation := .ok d.variant.minPopulation
  generate := d.generate

end Differential

end BoxSearch

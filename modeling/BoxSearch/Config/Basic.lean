import BoxSearch.Solver.Evolution

/-!
# Configurations

A `Config` holds every setting of differential evolution that can be written down.
`Config.standard` is the one of a run about which nothing is said, `Config.agrees`
compares two configurations number by number, and `Config.build` makes a solver that
is ready to step inside a box.
-/

namespace BoxSearch

/-- The settings of differential evolution. -/
structure Config where
  /-- the number of members; without one, 15 for each free dimension -/
  populationSize : Option Nat
  /-- the seed of the generator -/
  seed : Option UInt64
  /-- formula and crossover -/
  variant : Variant
  /-- how the mutation factor is found -/
  mutation : Mutation Float
  /-- the crossover rate -/
  rate : Float
  /-- how the population is drawn -/
  init : Init
  /-- what ends the run -/
  criterion : Criterion
  /-- what evaluates the batches -/
  map : MapKind
  /-- the number of threads of the map -/
  threads : Option Nat
  /-- the largest number of generations -/
  maxGenerations : Option Nat
  /-- the number of evaluations from which on no generation is begun -/
  maxEvaluations : Option Nat
  /-- which coordinates are whole numbers -/
  integrality : Option (List Bool)
  /-- the point that replaces the first member -/
  guess : Option (Point Float)

namespace Config

/-- The configuration of a run about which nothing is said. -/
def standard : Config where
  populationSize := none
  seed := none
  variant := .standard
  mutation := .standard
  rate := 0.9
  init := .latinHypercube
  criterion := .standard
  map := .serial
  threads := none
  maxGenerations := some 1000
  maxEvaluations := none
  integrality := none
  guess := none

/-! ## Comparing -/

/-- The same setting, with numbers compared as numbers. -/
def agreesMutation : Mutation Float → Mutation Float → Bool
  | .factor f, .factor g => f == g
  | .range a b, .range c d => a == c && b == d
  | _, _ => false

/-- The same test, with numbers compared as numbers. -/
def agreesTest : Test → Test → Bool
  | .maxGenerations m, .maxGenerations n => m == n
  | .maxEvaluations m, .maxEvaluations n => m == n
  | .valueToReach x, .valueToReach y => x == y
  | .change x m, .change y n => x == y && m == n
  | .relativeChange x m, .relativeChange y n => x == y && m == n
  | .collapse x a, .collapse y b => x == y && a == b
  | .energyDeviation x a, .energyDeviation y b => x == y && a == b
  | .stagnation m, .stagnation n => m == n
  | .never, .never => true
  | _, _ => false

mutual

/-- The same tree over the same tests. -/
def agreesCriterion : Criterion → Criterion → Bool
  | .test t, .test u => agreesTest t u
  | .any cs, .any ds => agreesCriteria cs ds
  | .all cs, .all ds => agreesCriteria cs ds
  | _, _ => false

/-- The same trees in the same order. -/
def agreesCriteria : List Criterion → List Criterion → Bool
  | [], [] => true
  | c :: cs, d :: ds => agreesCriterion c d && agreesCriteria cs ds
  | _, _ => false

end

/-- The same settings, with numbers compared as numbers: both zeros agree, and a
missing number agrees with nothing. -/
def agrees (c d : Config) : Bool :=
  c.populationSize == d.populationSize && c.seed == d.seed && c.variant == d.variant &&
    agreesMutation c.mutation d.mutation && c.rate == d.rate && c.init == d.init &&
    agreesCriterion c.criterion d.criterion && c.map == d.map && c.threads == d.threads &&
    c.maxGenerations == d.maxGenerations && c.maxEvaluations == d.maxEvaluations &&
    c.integrality == d.integrality && c.guess == d.guess

/-! ## Building -/

/-- The number of members for a box. -/
def resolvedPopulation (c : Config) (box : Box Float) : Nat :=
  c.populationSize.getD (max (15 * box.freeCount) c.variant.minPopulation)

/-- The hard caps. -/
def limits (c : Config) : Limits := ⟨c.maxGenerations, c.maxEvaluations⟩

/-- The constraints: rounding of the whole-numbered coordinates. -/
def constraints (c : Config) (box : Box Float) : Except SolverError (Constraints Float) :=
  match c.integrality with
  | some mask => (Repair.integrality mask box).map Constraints.none.withRepair
  | none => .ok .none

/-- The solver of a configuration before a population is drawn. -/
def install (c : Config) (box : Box Float) (timed : Bool) : Except SolverError (Evolution Float) := do
  let strategy ← Differential.make c.variant c.mutation c.rate
  let constraints ← c.constraints box
  .ok { Evolution.bare box.dim timed with
    init := c.init
    strategy := some strategy.toStrategy
    watch := some (.ofCriterion c.criterion)
    map := some (c.map.build c.threads)
    limits := c.limits
    constraints }

/-- A solver that is ready to step, and what was reported on the way; without a seed it draws from
the given entropy. -/
def build (c : Config) (box : Box Float) (timed : Bool) (entropy : Entropy := .frozen) :
    Except SolverError (Evolution Float) × List (Event Float) :=
  match c.install box timed with
  | .error e => (.error e, [])
  | .ok s =>
    let reply := s.prepare (some box) (c.resolvedPopulation box) (.ofNumber? entropy c.seed)
    match reply.result, c.guess with
    | .error e, _ => (.error e, reply.events)
    | .ok _, some x => (reply.after.setInitialGuess x, reply.events)
    | .ok _, none => (.ok reply.after, reply.events)

end Config

end BoxSearch

import BoxSearch.Energy
import BoxSearch.Scalar

/-!
# The state of a run

What a solver has committed so far: completed generations, objective evaluations
spent, the population with its energies, the best point seen, and the status of
the run.  Termination criteria and monitors read it; only the solver that owns
it writes it.
-/

namespace BoxSearch

/-! ## Populations -/

/-- Points of one dimension, one per member. -/
structure Population (α : Type) where
  /-- the dimension of the members -/
  width : Nat
  /-- the members -/
  rows : List (Point α)
  deriving Repr

namespace Population

variable {α : Type}

/-- The number of members. -/
def size (p : Population α) : Nat := p.rows.length

/-- The member at a place; outside the population, the empty point. -/
def row (p : Population α) (i : Nat) : Point α := p.rows.getD i []

/-- The population with one member replaced. -/
def setRow (p : Population α) (i : Nat) (x : Point α) : Population α :=
  { p with rows := p.rows.set i x }

end Population

/-! ## Status -/

/-- How a run stands. -/
inductive Status where
  /-- made ready, no generation run yet -/
  | ready
  /-- between generations -/
  | running
  /-- ended, with the reason -/
  | terminated (reason : String)
  /-- stopped between generations by a request; a later call goes on -/
  | cancelled
  deriving DecidableEq, Repr

namespace Status

/-- The wording of a status. -/
def message : Status → String
  | .ready => "ready"
  | .running => "running"
  | .terminated reason => "terminated: " ++ reason
  | .cancelled => "cancelled"

/-- The reason of an ended run. -/
def reason? : Status → Option String
  | .terminated reason => some reason
  | _ => none

/-- Whether the run has ended. -/
def isTerminated (s : Status) : Bool := s.reason?.isSome

end Status

/-! ## State -/

/-- The committed state of a run. -/
structure State (α : Type) where
  /-- completed generations -/
  generation : Nat
  /-- objective evaluations performed -/
  evaluations : Nat
  /-- one row per member -/
  population : Population α
  /-- the energy of each member -/
  energies : List Float
  /-- the best point seen -/
  bestSolution : Point α
  /-- its energy -/
  bestEnergy : Float
  /-- how the run stands -/
  status : Status

namespace State

/-- The state before anything was drawn: no members, and the origin as best point. -/
def empty {α : Type} [Scalar α] (dim : Nat) : State α where
  generation := 0
  evaluations := 0
  population := ⟨dim, []⟩
  energies := []
  bestSolution := List.replicate dim Scalar.zero
  bestEnergy := Double.infinity
  status := .ready

/-- The state at the start of a run from a drawn population: the first member
stands in for the best point until energies are known. -/
def start {α : Type} (population : Population α) : State α where
  generation := 0
  evaluations := 0
  population := population
  energies := List.replicate population.size Double.infinity
  bestSolution := population.row 0
  bestEnergy := Double.infinity
  status := .ready

/-- Whether the run has ended. -/
def isTerminated {α : Type} (s : State α) : Bool := s.status.isTerminated

/-- The reason of an ended run. -/
def reason? {α : Type} (s : State α) : Option String := s.status.reason?

end State

end BoxSearch

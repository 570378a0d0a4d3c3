import BoxSearch.Solver.Tree

/-!
# Members of an ensemble

A `MemberPlan` says how the member at a place of an ensemble is built: of which family
it is, in which box it searches, and what ends its run.  A member is made ready with
the seed of its place and then moved to its start point.

An ensemble of plain compass searches is the plan about which nothing is said, with a
box or without one.
-/

namespace BoxSearch

/-- Which families the members of an ensemble belong to. -/
inductive MemberKind where
  /-- all are compass searches -/
  | compass
  /-- all are runs of differential evolution -/
  | evolution
  /-- compass searches at even places, differential evolution at odd ones -/
  | mixed
  deriving DecidableEq, Repr

namespace MemberKind

/-- Whether the member at a place is a run of differential evolution. -/
def evolves (k : MemberKind) (place : Nat) : Bool :=
  match k with
  | .compass => false
  | .evolution => true
  | .mixed => place % 2 = 1

end MemberKind

/-- How the members of an ensemble are built. -/
structure MemberPlan where
  /-- the families of the members -/
  kind : MemberKind
  /-- the dimension of the members -/
  dim : Nat
  /-- the box of every member; without one they are unbounded -/
  box : Option (Box Float)
  /-- the size of a population -/
  size : Nat
  /-- the first step length of a compass search -/
  initialStep : Float
  /-- the tolerance of a compass search -/
  tolerance : Float
  /-- what ends a run of differential evolution, if not the standard criterion, or why
  there is no such run -/
  criterion : Except SolverError (Option Criterion)
  /-- the hard caps of a member -/
  limits : Limits
  /-- whether generations are timed -/
  timed : Bool
  /-- the place at which no member can be built -/
  rejected : Option Nat
  /-- a compass search of another dimension than its start point keeps the drawn one -/
  lenient : Bool

namespace MemberPlan

/-- Plain compass searches in a box. -/
def plain (dim : Nat) (box : Option (Box Float)) : MemberPlan where
  kind := .compass
  dim := dim
  box := box
  size := 1
  initialStep := Compass.standardStep
  tolerance := Compass.standardTolerance
  criterion := .ok none
  limits := .none
  timed := false
  rejected := none
  lenient := false

/-- A compass search at a start point. -/
def compassAt (m : MemberPlan) (start : Point Float) (seed : Seed) :
    Except SolverError (Solver Float) × List (Event Float) :=
  match Size.checkPoint m.dim with
  | .error e => (.error e, [])
  | .ok _ =>
    let s := { Compass.withMesh m.dim m.initialStep m.tolerance with limits := m.limits }
    let reply := s.prepare m.box 1 seed
    match reply.result with
    | .error e => (.error e, reply.events)
    | .ok _ =>
      if m.lenient && s.dim ≠ start.length then (.ok (.compass reply.after), reply.events)
      else ((reply.after.setInitialGuess start).map .compass, reply.events)

/-- A run of differential evolution around a start point in `dim` dimensions. -/
def evolutionAt (m : MemberPlan) (dim : Nat) (start : Point Float) (seed : Seed) :
    Except SolverError (Solver Float) × List (Event Float) :=
  match m.criterion with
  | .error e => (.error e, [])
  | .ok criterion =>
    let s := { Evolution.standard dim m.timed with limits := m.limits }
    let s :=
      match criterion with
      | some c => { s with watch := some (.ofCriterion c) }
      | none => s
    let reply := s.prepare m.box m.size seed
    match reply.result with
    | .error e => (.error e, reply.events)
    | .ok _ => ((reply.after.setInitialGuess start).map .evolution, reply.events)

/-- Builds the members of an ensemble in `dim` dimensions. -/
def builder (m : MemberPlan) (dim : Nat) : Solver.Builder Float := fun place start seed =>
  if m.rejected = some place then
    (.error (.configuration (.other s!"member {place} rejected")), [])
  else if m.kind.evolves place then m.evolutionAt dim start seed
  else m.compassAt start seed

end MemberPlan

end BoxSearch

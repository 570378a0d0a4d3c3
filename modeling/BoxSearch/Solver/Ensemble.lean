import BoxSearch.Solver.Compass

/-!
# Ensembles of solvers

An ensemble draws start points, builds one member at each of them, and then steps
every active member once per generation.  Its own state is an aggregate: the row
of a member is the member's best point, the evaluations are the sum of the
members', and the best point is the best one seen in any generation.

This file holds what an ensemble knows apart from its members, its `Frame`, and
the work of one generation that does not depend on what a member is: the moves of
the members are handed in as functions.

* `Dispatch.run` makes the moves in the order of a map, each at its first mention;
* `Dispatch.verdicts` turns the outcomes into one flag per member, or into the
  error of the first member, in the order of members, that failed or was left out;
* `Frame.conclude` aggregates and asks whether the ensemble stops.
-/

namespace BoxSearch

/-! ## The frame -/

/-- An ensemble apart from its members. -/
structure Frame (α : Type) [Scalar α] where
  /-- the dimension of the problem -/
  dim : Nat
  /-- where the members start -/
  starts : StartPoints
  /-- what dispatches the members' steps -/
  map : EvaluationMap α
  /-- which members have stopped -/
  stopped : List Bool
  /-- what ends the run -/
  watch : Option Watch
  /-- repair and penalty for members to come, if any were set -/
  constraints : Option (Constraints α)
  /-- hard caps -/
  limits : Limits
  /-- the aggregate -/
  state : State α
  /-- the members were built -/
  ready : Bool
  /-- carries requests to stop -/
  token : CancelToken

namespace Frame

variable {α : Type} [Scalar α]

/-- The frame of an ensemble without members. -/
def make (dim : Nat) (starts : StartPoints) : Frame α where
  dim := dim
  starts := starts
  map := .serial
  stopped := []
  watch := none
  constraints := none
  limits := .none
  state := .empty dim
  ready := false
  token := .fresh

/-- The number of members that have not stopped. -/
def active (f : Frame α) : Nat := f.stopped.count false

/-- The start points of the members, one row each. -/
def drawStarts (f : Frame α) (box : Option (Box α)) (seed : Seed) :
    Except SolverError (Population α) := do
  if f.dim = 0 then .error (.configuration .zeroDimension)
  Evolution.checkBox f.dim box
  let starts ← f.starts.generate (Evolution.drawBox f.dim box) seed.generator
  if starts.rows.isEmpty then .error (.configuration .noStartPoints)
  .ok starts

/-- The frame at the start of a run from the given points. -/
def begin (f : Frame α) (starts : Population α) : Frame α :=
  { f with
    stopped := List.replicate starts.size false
    state := { State.empty f.dim with
      population := starts
      energies := List.replicate starts.size Double.infinity }
    ready := true
    token := .fresh
    watch := f.watch.map Watch.reset }

/-- Refuses a generation that cannot be run. -/
def checkReady (f : Frame α) (o : Objective α) : Except SolverError Unit := do
  if !f.ready then .error (.configuration .notReady)
  o.checkDimension f.dim

/-! ## Aggregation -/

/-- The aggregate of the members' states, given the best pair so far. -/
def aggregate (state : State α) (dim : Nat) (members : List (State α)) : State α :=
  let rows := members.map (·.bestSolution)
  let energies := members.map (·.bestEnergy)
  let (best, energy) := Energy.argmin energies
  let improves := energy < state.bestEnergy
  { state with
    population := ⟨dim, rows⟩
    energies
    evaluations := (members.map (·.evaluations)).foldr (· + ·) 0
    bestEnergy := if improves then energy else state.bestEnergy
    bestSolution := if improves then rows.getD best [] else state.bestSolution }

/-- Asks the criterion, the members and then the limits whether the run ends. -/
def checkStop (f : Frame α) : Reply (Frame α) α Bool :=
  match askWatch f.state f.watch with
  | .error e => .refuse f e
  | .ok (reason, watch) =>
    let f := { f with watch }
    let members := if f.stopped.all id then some "All members stopped" else none
    match reason.or (members.or (f.limits.reason? f.state)) with
    | some reason =>
      .done { f with state := { f.state with status := .terminated reason } } true
        [.log (.ensembleFinished f.state.generation reason f.state.bestEnergy)]
    | none => .done f false []

/-- Commits a generation after which the members have the given states and flags. -/
def conclude (f : Frame α) (stopped : List Bool) (members : List (State α)) :
    Reply (Frame α) α Bool :=
  let state := aggregate { f.state with status := .running } f.dim members
  let state := { state with generation := state.generation + 1 }
  let after := { f with stopped, state }
  after.checkStop.preceded
    [.generation ⟨state.evaluations, state.bestSolution, state.bestEnergy⟩,
      .log (.ensembleGeneration state.generation state.bestEnergy after.active)]

end Frame

/-! ## Dispatching moves -/

namespace Dispatch

variable {σ α : Type}

/-- The move of a member: given the evaluations made so far, its reply and the
evaluations made then. -/
abbrev Move (σ α : Type) := Nat → Reply σ α Bool × Nat

/-- Makes the moves at the given places one after the other; returns their replies
by place. -/
def runAll (moves : List (Move σ α)) :
    List Nat → Nat → List (Nat × Reply σ α Bool) × Nat
  | [], calls => ([], calls)
  | i :: order, calls =>
    match moves[i]? with
    | none => runAll moves order calls
    | some move =>
      let (reply, calls) := move calls
      let (rest, calls) := runAll moves order calls
      ((i, reply) :: rest, calls)

/-- The moves in the order of a map, each at its first mention. -/
def run (map : EvaluationMap α) (moves : List (Move σ α)) (calls : Nat) :
    List (Nat × Reply σ α Bool) × Nat :=
  runAll moves (map.dispatch moves.length).eraseDups calls

/-- The move of a member that has stopped: it stays as it is. -/
def rest (s : σ) : Move σ α := fun calls => (.done s true [], calls)

/-- The outcome of a member's move; a map that left the member out is at fault. -/
def outcome (map : String) (replies : List (Nat × Reply σ α Bool)) (i : Nat) :
    Except SolverError Bool :=
  match replies.lookup i with
  | some reply => reply.result
  | none => .error (.configuration (.memberNotRun map i))

/-- The fault met first, if a move met one. -/
def fault? (replies : List (Nat × Reply σ α Bool)) : Option Fault :=
  replies.findSome? fun (_, reply) =>
    match reply.result with
    | .error e => e.fault?
    | .ok _ => none

/-- Whether each member has stopped, or the first error in the order of members. -/
def verdicts (map : String) (count : Nat) (replies : List (Nat × Reply σ α Bool)) :
    Except SolverError (List Bool) :=
  match fault? replies with
  | some f => .error (.fault f)
  | none => (List.range count).mapM (outcome map replies)

/-- The members after their moves. -/
def afters (members : List σ) (replies : List (Nat × Reply σ α Bool)) : List σ :=
  members.mapIdx fun i m =>
    match replies.lookup i with
    | some reply => reply.after
    | none => m

/-- What the moves reported, in the order in which they were made.  The members'
generations are an affair of their own. -/
def events (replies : List (Nat × Reply σ α Bool)) : List (Event α) :=
  (replies.flatMap (·.2.events)).filter (!·.isGeneration)

end Dispatch

end BoxSearch

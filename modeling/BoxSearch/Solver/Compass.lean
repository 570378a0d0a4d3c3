import BoxSearch.Random.Stream
import BoxSearch.Solver.Evolution

/-!
# Compass search

The point solver.  One step is one generation: the best point is probed one step
length up and down along every free coordinate, all probes are evaluated as one
batch, and either the best probe replaces the point or every step length is
halved.  The run has converged when every step length along a free coordinate is
below the tolerance.

A generation that fails is taken back as a whole, the evaluation of the start
point included.
-/

namespace BoxSearch

/-- A run of compass search. -/
structure Compass (α : Type) [Scalar α] where
  /-- the dimension of the problem -/
  dim : Nat
  /-- the box of the search; without one it is unbounded -/
  box : Option (Box α)
  /-- the first step length, as a fraction of the side of the box -/
  initialStep : α
  /-- the run has converged when every step length is below this -/
  tolerance : α
  /-- the step length of every coordinate -/
  steps : List α
  /-- what ends the run -/
  watch : Option Watch
  /-- what evaluates the batches -/
  map : EvaluationMap α
  /-- repair and penalty -/
  constraints : Constraints α
  /-- hard caps -/
  limits : Limits
  /-- what is committed; the population is the point itself -/
  state : State α
  /-- a start point was drawn -/
  ready : Bool
  /-- the start point was evaluated -/
  evaluated : Bool
  /-- carries requests to stop -/
  token : CancelToken

namespace Compass

variable {α : Type} [Scalar α]

/-! ## Setting up -/

/-- A search with the given first step and tolerance. -/
def withMesh (dim : Nat) (initialStep tolerance : α) : Compass α where
  dim := dim
  box := none
  initialStep := initialStep
  tolerance := tolerance
  steps := List.replicate dim Scalar.zero
  watch := none
  map := .serial
  constraints := .none
  limits := .none
  state := .empty dim
  ready := false
  evaluated := false
  token := .fresh

/-- The first step of a search about which nothing is said, a tenth of a side. -/
def standardStep : Float := 0.1

/-- The tolerance of a search about which nothing is said. -/
def standardTolerance : Float := 1e-9

/-- A search about which nothing is said. -/
def standard (dim : Nat) : Compass Float := withMesh dim standardStep standardTolerance

/-- Starts a run from a drawn point and forgets everything about the run before it.
A population size is of no use here. -/
def prepare (s : Compass α) (box : Option (Box α)) (size : Nat) (seed : Seed) :
    Reply (Compass α) α Unit :=
  if s.dim = 0 then .refuse s (.configuration .zeroDimension)
  else
    match Evolution.checkBox s.dim box with
    | .error e => .refuse s e
    | .ok _ =>
      let drawn := Evolution.drawBox s.dim box
      let (start, _) := Sampling.uniform 1 drawn seed.generator
      let after := { s with
        box
        steps := drawn.span.map (· * s.initialStep)
        state := .start start
        ready := true
        evaluated := false
        token := .fresh
        watch := s.watch.map Watch.reset }
      .done after () (if 1 < size then [.log (.populationIgnored size)] else [])

/-- A new point, repaired and then clipped. -/
def finish (s : Compass α) (x : Point α) : Point α :=
  let x := s.constraints.applyRepair x
  match s.box with
  | some b => b.clip x
  | none => x

/-- Starts from a given point instead of the drawn one. -/
def setInitialGuess (s : Compass α) (x : Point α) : Except SolverError (Compass α) :=
  if !s.ready || s.evaluated then .error (.configuration .guessMoment)
  else if x.length ≠ s.dim then .error (.dimensionMismatch "initial guess" s.dim x.length)
  else if s.state.population.rows.isEmpty then .error (.fault (.indexOutOfRange 0 0))
  else if s.state.population.width ≠ s.dim then
    .error (.fault (.rowLength s.state.population.width s.dim))
  else
    let x := s.finish x
    .ok { s with state := { s.state with
      population := s.state.population.setRow 0 x
      bestSolution := x } }

/-! ## Probes -/

/-- Whether the search moves along a coordinate. -/
def isFree (s : Compass α) (j : Nat) : Bool :=
  match s.box with
  | some b => b.free.getD j false
  | none => true

/-- The coordinates along which the search moves. -/
def freeCoordinates (s : Compass α) : List Nat := (List.range s.dim).filter s.isFree

/-- The points one step up and down along a coordinate of the best point. -/
def probesAlong (s : Compass α) (j : Nat) : Except Fault (List (Point α)) := do
  let x := s.state.bestSolution
  let v ← entryAt x j
  let h ← entryAt s.steps j
  let one : α := Scalar.ofNat 1
  .ok [s.finish (x.set j (v + one * h)), s.finish (x.set j (v + -one * h))]

/-- The probes of a generation, coordinate by coordinate. -/
def probes (s : Compass α) : Except Fault (List (Point α)) :=
  (s.freeCoordinates.mapM s.probesAlong).map List.flatten

/-! ## Batches -/

/-- The penalised energies of a batch. -/
def evaluateBatch (s : Compass α) (o : Objective α) (calls : Nat) (xs : List (Point α)) :
    Except SolverError (List Float) × Nat :=
  Batch.evaluate s.map "map" s.constraints o calls xs

/-- Commits the evaluated start point. -/
def commitStart (s : Compass α) (x : Point α) (f : Float) : Compass α :=
  { s with
    evaluated := true
    state := { s.state with
      evaluations := s.state.evaluations + 1
      population := s.state.population.setRow 0 x
      energies := s.state.energies.set 0 f
      bestSolution := x
      bestEnergy := f } }

/-- Evaluates the start point; nothing is left to do when that was done before. -/
def evaluateStart (s : Compass α) (o : Objective α) (calls : Nat) :
    Reply (Compass α) α Unit × Nat :=
  if s.evaluated then (.done s () [], calls)
  else
    match s.state.population.rows with
    | [] => (.refuse s (.fault (.indexOutOfRange 0 0)), calls)
    | row :: _ =>
      let x := s.finish row
      match s.evaluateBatch o calls [x] with
      | (.error e, calls) => (.refuse s e, calls)
      | (.ok energies, calls) =>
        (.done (s.commitStart x (energies.headD Double.nan)) ()
          (Batch.records (s.state.evaluations + 1) [x] energies), calls)

/-! ## A generation -/

/-- The search after a generation with the given probes: at the best probe if that
one improves, and otherwise with half the step lengths. -/
def move (s : Compass α) (points : List (Point α)) (energies : List Float) : Compass α :=
  let (k, f) := Energy.argmin energies
  let state := { s.state with
    generation := s.state.generation + 1
    evaluations := s.state.evaluations + points.length }
  if f < s.state.bestEnergy then
    let x := points.getD k []
    { s with state := { state with
      population := state.population.setRow 0 x
      energies := state.energies.set 0 f
      bestSolution := x
      bestEnergy := f } }
  else { s with state, steps := s.steps.map (· * Scalar.half) }

/-- Whether every step length along a free coordinate is below the tolerance. -/
def converged (s : Compass α) : Bool :=
  s.freeCoordinates.all fun j => (s.steps.getD j Scalar.zero) < s.tolerance

/-- Why a search has converged. -/
def convergedReason (s : Compass α) : String :=
  "Step size below tolerance " ++ scientific 3 (Scalar.toFloat s.tolerance)

/-- Asks the criterion, the mesh and then the limits whether the run ends. -/
def checkStop (s : Compass α) : Reply (Compass α) α Bool :=
  match askWatch s.state s.watch with
  | .error e => .refuse s e
  | .ok (reason, watch) =>
    let s := { s with watch }
    let mesh := if s.converged then some s.convergedReason else none
    match reason.or (mesh.or (s.limits.reason? s.state)) with
    | some reason =>
      .done { s with state := { s.state with status := .terminated reason } } true []
    | none => .done s false []

/-- Commits the evaluated probes. -/
def commitGeneration (s : Compass α) (points : List (Point α)) (energies : List Float) :
    Reply (Compass α) α Bool :=
  let after := s.move points energies
  let state := after.state
  let records := Batch.records (s.state.evaluations + 1) points energies
  let summary := [.generation ⟨state.evaluations, state.bestSolution, state.bestEnergy⟩,
    .log (.compassGeneration state.generation state.bestEnergy
      (after.steps.map Scalar.toFloat))]
  after.checkStop.preceded (records ++ summary)

/-- Evaluates and commits the probes around the best point. -/
def explore (s : Compass α) (o : Objective α) (calls : Nat) : Reply (Compass α) α Bool × Nat :=
  match s.probes with
  | .error f => (.refuse s (.fault f), calls)
  | .ok points =>
    match s.evaluateBatch o calls points with
    | (.error e, calls) => (.refuse s e, calls)
    | (.ok energies, calls) => (s.commitGeneration points energies, calls)

/-- Refuses a generation that cannot be run. -/
def checkReady (s : Compass α) (o : Objective α) : Except SolverError Unit := do
  if !s.ready then .error (.configuration .notReady)
  o.checkDimension s.dim

/-- Runs one generation without taking back what a failure leaves. -/
def advance (s : Compass α) (o : Objective α) (calls : Nat) : Reply (Compass α) α Bool × Nat :=
  match s.checkReady o with
  | .error e => (.refuse s e, calls)
  | .ok _ =>
    if s.state.isTerminated then (.done s true [], calls)
    else
      match s.evaluateStart o calls with
      | (⟨.error e, s, events⟩, calls) => (⟨.error e, s, events⟩, calls)
      | (⟨.ok _, s, events⟩, calls) =>
        let s := { s with state := { s.state with status := .running } }
        let (reply, calls) := s.explore o calls
        (reply.preceded events, calls)

/-- Runs one generation; the result says whether the run has ended.  After a failure
state, step lengths and the mark of the evaluated start are what they were. -/
def step (s : Compass α) (o : Objective α) (calls : Nat) : Reply (Compass α) α Bool × Nat :=
  let (reply, calls) := s.advance o calls
  match reply.result with
  | .ok _ => (reply, calls)
  | .error _ =>
    ({ reply with after := { reply.after with
        state := s.state
        steps := s.steps
        evaluated := s.evaluated } }, calls)

end Compass

end BoxSearch

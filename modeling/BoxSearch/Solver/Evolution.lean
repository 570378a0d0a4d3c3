import BoxSearch.Solver.Basic
import BoxSearch.Strategy.Trial

/-!
# Differential evolution

The population solver.  One step is one generation:

* before the first generation, the drawn population is repaired, clipped and
  evaluated as one batch;
* every member gets a trial from the strategy, repaired and clipped, and all
  trials are evaluated as one batch;
* a trial replaces its target when its energy is at most the target's;
* the best point is replaced when an energy falls below it;
* the criterion and then the limits decide whether the run ends.

When the batch of trials fails, the generation is abandoned: the generator goes
back to where it was.  The batch of the drawn population is a commitment of its
own, and stands.
-/

namespace BoxSearch

/-- A run of differential evolution. -/
structure Evolution (α : Type) [Scalar α] where
  /-- the dimension of the problem -/
  dim : Nat
  /-- the box of the search; without one it is unbounded -/
  box : Option (Box α)
  /-- how the next population is drawn -/
  init : Init
  /-- what makes the trials -/
  strategy : Option (Strategy α)
  /-- what ends the run -/
  watch : Option Watch
  /-- what evaluates the batches -/
  map : Option (EvaluationMap α)
  /-- repair and penalty -/
  constraints : Constraints α
  /-- hard caps -/
  limits : Limits
  /-- the source of randomness -/
  generator : Generator
  /-- what is committed -/
  state : State α
  /-- a population was drawn -/
  ready : Bool
  /-- the drawn population was evaluated -/
  evaluated : Bool
  /-- carries requests to stop -/
  token : CancelToken
  /-- generations are timed -/
  timed : Bool

namespace Evolution

variable {α : Type} [Scalar α]

/-! ## Setting up -/

/-- A solver without strategy, criterion and map. -/
def bare (dim : Nat) (timed : Bool) : Evolution α where
  dim := dim
  box := none
  init := .latinHypercube
  strategy := none
  watch := none
  map := none
  constraints := .none
  limits := .none
  generator := .ofSeed 0
  state := .empty dim
  ready := false
  evaluated := false
  token := .fresh
  timed := timed

/-- A solver with the standard strategy, criterion and map. -/
def standard (dim : Nat) (timed : Bool) : Evolution Float :=
  { bare dim timed with
    strategy := some (Differential.toStrategy ⟨.standard, .standard, 0.9⟩)
    map := some .serial
    watch := some (.ofCriterion .standard) }

/-- The box in which points are drawn. -/
def drawBox (dim : Nat) (box : Option (Box α)) : Box α := box.getD (.default dim)

/-- Refuses a box of another dimension than the problem's. -/
def checkBox (dim : Nat) (box : Option (Box α)) : Except SolverError Unit :=
  match box with
  | some b => if b.dim = dim then .ok () else .error (.dimensionMismatch "bounds" dim b.dim)
  | none => .ok ()

/-- Refuses what no population can be drawn for. -/
def checkStart (dim : Nat) (box : Option (Box α)) (size : Nat) : Except SolverError Unit := do
  if dim = 0 then .error (.configuration .zeroDimension)
  if size = 0 then .error (.configuration .zeroPopulation)
  checkBox dim box
  Size.checkTable size dim

/-- Starts a run: draws a population of the given size and forgets everything about
the run before it. -/
def prepare (s : Evolution α) (box : Option (Box α)) (size : Nat) (seed : Seed) :
    Reply (Evolution α) α Unit :=
  match checkStart s.dim box size with
  | .error e => .refuse s e
  | .ok _ =>
    let drawn := drawBox s.dim box
    let (population, generator) := s.init.draw size drawn seed.generator
    let after := { s with
      box, generator
      state := .start population
      ready := true
      evaluated := false
      token := .fresh
      watch := s.watch.map Watch.reset }
    .done after () [.log (.evolutionPrepared s.dim drawn.freeCount size s.init
      (s.strategy.map (·.name)))]

/-- Refuses a start value unless a population is drawn and not yet evaluated. -/
def checkUnstarted (s : Evolution α) (what : String) : Except SolverError Unit :=
  if !s.ready then .error (.configuration (.startTooEarly what))
  else if s.evaluated then .error (.configuration (.startTooLate what))
  else .ok ()

/-- A point moved into the box of the search. -/
def clip (s : Evolution α) (x : Point α) : Point α :=
  match s.box with
  | some b => b.clip x
  | none => x

/-- Replaces the drawn population. -/
def setInitialPopulation (s : Evolution α) (p : Population α) : Except SolverError (Evolution α) := do
  s.checkUnstarted "initial population"
  if p.width ≠ s.dim then
    .error (.dimensionMismatch "initial population" s.dim p.width)
  else if p.rows.isEmpty then .error (.configuration .emptyStart)
  else
    let rows := p.rows.map s.clip
    .ok { s with state := { s.state with
      population := ⟨p.width, rows⟩
      energies := List.replicate rows.length Double.infinity
      bestSolution := rows.headD [] } }

/-- Replaces the first member of the drawn population. -/
def setInitialGuess (s : Evolution α) (x : Point α) : Except SolverError (Evolution α) := do
  s.checkUnstarted "initial guess"
  if x.length ≠ s.dim then .error (.dimensionMismatch "initial guess" s.dim x.length)
  else if s.state.population.rows.isEmpty then .error (.fault (.indexOutOfRange 0 0))
  else if s.state.population.width ≠ s.dim then
    .error (.fault (.rowLength s.state.population.width s.dim))
  else
    let x := s.clip x
    .ok { s with state := { s.state with
      population := s.state.population.setRow 0 x
      bestSolution := x } }

/-! ## Batches -/

/-- A new point, repaired and then clipped. -/
def finish (s : Evolution α) (x : Point α) : Point α := s.clip (s.constraints.applyRepair x)

/-- The plug-ins of a generation, or what is missing for it. -/
def checkReady (s : Evolution α) (o : Objective α) :
    Except SolverError (Strategy α × EvaluationMap α) := do
  if !s.ready then .error (.configuration .notReady)
  let some strategy := s.strategy | .error (.configuration .noStrategy)
  if s.watch.isNone then .error (.configuration .noCriterion)
  let some map := s.map | .error (.configuration .noMap)
  o.checkDimension s.dim
  checkPopulation (← strategy.minPopulation) s.state.population.size
  .ok (strategy, map)

/-- The penalised energies of a batch. -/
def evaluateBatch (s : Evolution α) (map : EvaluationMap α) (o : Objective α) (calls : Nat)
    (xs : List (Point α)) : Except SolverError (List Float) × Nat :=
  Batch.evaluate map ("map '" ++ map.name ++ "'") s.constraints o calls xs

/-- Commits the evaluated first population. -/
def commitFirst (s : Evolution α) (rows : List (Point α)) (energies : List Float) : Evolution α :=
  let (best, energy) := Energy.argmin energies
  let population : Population α := { s.state.population with rows }
  { s with
    evaluated := true
    state := { s.state with
      population, energies
      evaluations := s.state.evaluations + rows.length
      bestSolution := population.row best
      bestEnergy := energy } }

/-- Evaluates the drawn population; nothing is left to do when that was done before. -/
def evaluateFirst (s : Evolution α) (map : EvaluationMap α) (o : Objective α) (calls : Nat) :
    Reply (Evolution α) α Unit × Nat :=
  if s.evaluated then (.done s () [], calls)
  else
    let rows := s.state.population.rows.map s.finish
    match s.evaluateBatch map o calls rows with
    | (.error e, calls) => (.refuse s e, calls)
    | (.ok energies, calls) =>
      let after := s.commitFirst rows energies
      let summary :=
        if energies.isEmpty then []
        else [.log (.populationEvaluated energies after.state.bestEnergy)]
      (.done after () (Batch.records (s.state.evaluations + 1) rows energies ++ summary), calls)

/-- The trials of the given targets, in order. -/
def trials (s : Evolution α) (strategy : Strategy α) :
    List Nat → Generator → Except SolverError (List (Point α) × Generator)
  | [], g => .ok ([], g)
  | target :: targets, g => do
    let (trial, g) ← strategy.generate s.state.population s.state.energies target g
    let (rest, g) ← trials s strategy targets g
    .ok (s.finish trial :: rest, g)

/-! ## Selection -/

/-- Whether a trial replaces its target. -/
def accepts (target trial : Point α × Float) : Bool := trial.2 ≤ target.2

/-- The one of a target and its trial that stays. -/
def survivor (target trial : Point α × Float) : Point α × Float :=
  if accepts target trial then trial else target

/-- The state after the selection between the members and their trials. -/
def select (state : State α) (trials : List (Point α × Float)) : State α :=
  let members := List.zipWith survivor (state.population.rows.zip state.energies) trials
  let population : Population α := { state.population with rows := members.map (·.1) }
  let energies := members.map (·.2)
  let (best, energy) := Energy.argmin energies
  let improves := energy < state.bestEnergy
  { state with
    population, energies
    generation := state.generation + 1
    evaluations := state.evaluations + trials.length
    bestEnergy := if improves then energy else state.bestEnergy
    bestSolution := if improves then population.row best else state.bestSolution }

/-- How many trials replace their targets. -/
def acceptedCount (state : State α) (trials : List (Point α × Float)) : Nat :=
  (List.zipWith accepts (state.population.rows.zip state.energies) trials).count true

/-! ## A generation -/

/-- Asks the criterion and then the limits whether the run ends. -/
def checkStop (s : Evolution α) : Reply (Evolution α) α Bool :=
  match askWatch s.state s.watch with
  | .error e => .refuse s e
  | .ok (reason, watch) =>
    let s := { s with watch }
    match reason.or (s.limits.reason? s.state) with
    | some reason =>
      .done { s with state := { s.state with status := .terminated reason } } true
        [.log (.evolutionFinished s.state.generation s.state.evaluations reason)]
    | none => .done s false []

/-- Commits the evaluated trials. -/
def commitGeneration (s : Evolution α) (trials : List (Point α × Float)) :
    Reply (Evolution α) α Bool :=
  let state := select s.state trials
  let after := { s with state }
  let records := Batch.records (s.state.evaluations + 1) (trials.map (·.1)) (trials.map (·.2))
  let summary := [.generation ⟨state.evaluations, state.bestSolution, state.bestEnergy⟩,
    .log (.evolutionGeneration state.generation state.bestEnergy state.energies
      (acceptedCount s.state trials))]
  let timing := if s.timed then [.log (.generationTimed state.generation)] else []
  after.checkStop.preceded (records ++ summary ++ timing)

/-- Makes, evaluates and commits one generation of trials. -/
def evolve (s : Evolution α) (strategy : Strategy α) (map : EvaluationMap α) (o : Objective α)
    (calls : Nat) : Reply (Evolution α) α Bool × Nat :=
  match s.trials strategy (List.range s.state.population.size) s.generator with
  | .error e => (.refuse s e, calls)
  | .ok (points, generator) =>
    match s.evaluateBatch map o calls points with
    | (.error e, calls) =>
      (⟨.error e, s, [.log (.evolutionAbandoned (s.state.generation + 1) e)]⟩, calls)
    | (.ok energies, calls) =>
      ({ s with generator }.commitGeneration (points.zip energies), calls)

/-- Runs one generation; the result says whether the run has ended. -/
def step (s : Evolution α) (o : Objective α) (calls : Nat) : Reply (Evolution α) α Bool × Nat :=
  match s.checkReady o with
  | .error e => (.refuse s e, calls)
  | .ok (strategy, map) =>
    if s.state.isTerminated then (.done s true [], calls)
    else
      match s.evaluateFirst map o calls with
      | (⟨.error e, s, events⟩, calls) => (⟨.error e, s, events⟩, calls)
      | (⟨.ok _, s, events⟩, calls) =>
        let s := { s with state := { s.state with status := .running } }
        let (reply, calls) := s.evolve strategy map o calls
        (reply.preceded events, calls)

end Evolution

/-! ## Reports -/

/-- A summary of a run. -/
structure Report (α : Type) where
  /-- the best point -/
  point : Point α
  /-- its energy -/
  energy : Float
  /-- a criterion or a limit ended the run -/
  success : Bool
  /-- how the run stands -/
  message : String
  /-- completed generations -/
  generations : Nat
  /-- objective evaluations -/
  evaluations : Nat
  /-- the population -/
  population : Population α
  /-- the energies of its members -/
  energies : List Float

namespace Report

variable {α : Type}

/-- The report on a state. -/
def ofState (s : State α) : Report α :=
  let (success, message) :=
    match s.status with
    | .terminated reason => (true, reason)
    | .cancelled => (false, "Cancelled")
    | .ready => (false, "Not started")
    | .running => (false, "Stopped before termination")
  ⟨s.bestSolution, s.bestEnergy, success, message, s.generation, s.evaluations, s.population,
    s.energies⟩

/-- The text of a report; lists are shown by their sizes. -/
def describe (r : Report α) : String :=
  let energy := NumberFormat.report.write r.energy
  "DEReport \x7b " ++ ", ".intercalate
    [s!"x: \"len={r.point.length}\"", s!"fun: {energy}", s!"success: {r.success}",
      s!"message: \"{r.message}\"", s!"nit: {r.generations}", s!"nfev: {r.evaluations}",
      s!"population: \"{r.population.size}x{r.population.width}\"",
      s!"population_energies: \"len={r.energies.length}\""] ++ " \x7d"

end Report

end BoxSearch

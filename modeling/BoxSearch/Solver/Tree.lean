import BoxSearch.Solver.Ensemble

/-!
# Solvers

A `Solver` is a run of differential evolution, a compass search, or an ensemble
whose members are solvers again.  All of them understand the same operations.

A `Checkpoint` is a copy of what a step commits: state and move rule, but not the
plug-ins, and not what a criterion remembers.  It goes back only into a solver of
the same shape.

* `Solver.step` runs one generation.  A generation of an ensemble in which a member
  fails, or is left out, is taken back in every member.
* `Solver.restore` puts a checkpoint back.  In an ensemble the members come first
  and in order, so a refusal leaves the members before the refusing one restored.
-/

namespace BoxSearch

/-- A solver of one of the three families. -/
inductive Solver (α : Type) [Scalar α] where
  /-- a population is evolved -/
  | evolution (s : Evolution α)
  /-- a single point is improved -/
  | compass (s : Compass α)
  /-- a set of members is driven; `build` makes the member of a place, a start point
  and a seed -/
  | ensemble (frame : Frame α)
      (build : Nat → Point α → Seed →
        Except SolverError (Solver α) × List (Event α))
      (members : List (Solver α))

/-- A copy of what a step commits. -/
inductive Checkpoint (α : Type) where
  /-- of differential evolution -/
  | evolution (state : State α) (generator : Generator) (evaluated : Bool)
  /-- of a compass search -/
  | compass (state : State α) (steps : List α) (evaluated : Bool)
  /-- of an ensemble -/
  | ensemble (state : State α) (stopped : List Bool) (members : List (Checkpoint α))

namespace Solver

variable {α : Type} [Scalar α]

/-- What a member of an ensemble is built from. -/
abbrev Builder (α : Type) [Scalar α] :=
  Nat → Point α → Seed → Except SolverError (Solver α) × List (Event α)

/-! ## Reading -/

/-- The family of a solver. -/
def family : Solver α → String
  | .evolution _ => "Population"
  | .compass _ => "Point"
  | .ensemble .. => "Ensemble"

/-- The dimension of the problem. -/
def dim : Solver α → Nat
  | .evolution s => s.dim
  | .compass s => s.dim
  | .ensemble f _ _ => f.dim

/-- What is committed. -/
def state : Solver α → State α
  | .evolution s => s.state
  | .compass s => s.state
  | .ensemble f _ _ => f.state

/-- What carries requests to stop. -/
def token : Solver α → CancelToken
  | .evolution s => s.token
  | .compass s => s.token
  | .ensemble f _ _ => f.token

/-! ## Writing -/

/-- The solver with another token. -/
def setToken (token : CancelToken) : Solver α → Solver α
  | .evolution s => .evolution { s with token }
  | .compass s => .compass { s with token }
  | .ensemble f build ms => .ensemble { f with token } build ms

/-- Asks the run to stop. -/
def cancel (s : Solver α) : Solver α := s.setToken s.token.cancel

/-- The solver with another state. -/
def setState (state : State α) : Solver α → Solver α
  | .evolution s => .evolution { s with state }
  | .compass s => .compass { s with state }
  | .ensemble f build ms => .ensemble { f with state } build ms

/-- Records that a request to stop was seen between generations. -/
def markCancelled (s : Solver α) : Solver α := s.setState { s.state with status := .cancelled }

/-- Installs a strategy; only differential evolution has a use for one. -/
def setStrategy (strategy : Strategy α) : Solver α → Solver α × List (Event α)
  | .evolution s => (.evolution { s with strategy := some strategy }, [])
  | s => (s, [.log (.strategyIgnored s.family strategy.name)])

/-- Installs a criterion. -/
def setWatch (watch : Watch) : Solver α → Solver α
  | .evolution s => .evolution { s with watch := some watch }
  | .compass s => .compass { s with watch := some watch }
  | .ensemble f build ms => .ensemble { f with watch := some watch } build ms

/-- Installs a map; an ensemble dispatches its members through it. -/
def setMap (map : EvaluationMap α) : Solver α → Solver α × List (Event α)
  | .evolution s => (.evolution { s with map := some map }, [])
  | .compass s => (.compass { s with map }, [])
  | .ensemble f build ms =>
    (.ensemble { f with map } build ms, [.log (.dispatcherChanged map.name)])

/-- Sets the hard caps. -/
def setLimits (limits : Limits) : Solver α → Solver α
  | .evolution s => .evolution { s with limits }
  | .compass s => .compass { s with limits }
  | .ensemble f build ms => .ensemble { f with limits } build ms

/-- Sets how the next population is drawn; only differential evolution has a choice. -/
def setInit (init : Init) : Solver α → Solver α
  | .evolution s => .evolution { s with init }
  | s => s

/-- Replaces the first population; only differential evolution has one of its own. -/
def setInitialPopulation (p : Population α) : Solver α → Except SolverError (Solver α)
  | .evolution s => (s.setInitialPopulation p).map .evolution
  | s => .ok s

/-- Starts from a given point; an ensemble has start points already. -/
def setInitialGuess (x : Point α) : Solver α → Except SolverError (Solver α)
  | .evolution s => (s.setInitialGuess x).map .evolution
  | .compass s => (s.setInitialGuess x).map .compass
  | s => .ok s

mutual

/-- Sets repair and penalty; an ensemble hands them to its members, present and to
come. -/
def setConstraints (c : Constraints α) : Solver α → Solver α
  | .evolution s => .evolution { s with constraints := c }
  | .compass s => .compass { s with constraints := c }
  | .ensemble f build ms =>
    .ensemble { f with constraints := some c } build (setConstraintsAll c ms)

/-- Sets repair and penalty of several solvers. -/
def setConstraintsAll (c : Constraints α) : List (Solver α) → List (Solver α)
  | [] => []
  | m :: ms => setConstraints c m :: setConstraintsAll c ms

end

/-! ## Checkpoints -/

mutual

/-- A copy of what is committed. -/
def checkpoint : Solver α → Checkpoint α
  | .evolution s => .evolution s.state s.generator s.evaluated
  | .compass s => .compass s.state s.steps s.evaluated
  | .ensemble f _ ms => .ensemble f.state f.stopped (checkpoints ms)

/-- The checkpoints of several solvers. -/
def checkpoints : List (Solver α) → List (Checkpoint α)
  | [] => []
  | m :: ms => checkpoint m :: checkpoints ms

end

mutual

/-- Goes back to a checkpoint; the solver afterwards, and whether it refused. -/
def restore : Solver α → Checkpoint α → Except SolverError Unit × Solver α
  | .evolution s, .evolution state generator evaluated =>
    (.ok (), .evolution { s with state, generator, evaluated })
  | .compass s, .compass state steps evaluated =>
    (.ok (), .compass { s with state, steps, evaluated })
  | .ensemble f build ms, .ensemble state stopped cs =>
    if cs.length ≠ ms.length then
      (.error (.dimensionMismatch "ensemble checkpoint" ms.length cs.length),
        .ensemble f build ms)
    else
      match restoreAll ms cs with
      | (.error e, ms) => (.error e, .ensemble f build ms)
      | (.ok _, ms) => (.ok (), .ensemble { f with state, stopped } build ms)
  | s, _ => (.error (.configuration .foreignCheckpoint), s)

/-- Puts checkpoints back into solvers, in order and up to the first refusal. -/
def restoreAll :
    List (Solver α) → List (Checkpoint α) → Except SolverError Unit × List (Solver α)
  | m :: ms, c :: cs =>
    match restore m c with
    | (.error e, m) => (.error e, m :: ms)
    | (.ok _, m) =>
      let (result, ms) := restoreAll ms cs
      (result, m :: ms)
  | ms, _ => (.ok (), ms)

end

/-! ## Starting -/

/-- Builds the members at the given start points, the first of which is the `i`-th. -/
def buildMembers (f : Frame α) (build : Builder α) (seed : Seed) :
    Nat → List (Point α) → Except SolverError (List (Solver α)) × List (Event α)
  | _, [] => (.ok [], [])
  | i, start :: starts =>
    match build i start (seed.member i) with
    | (.error e, events) => (.error e, events)
    | (.ok m, events) =>
      if m.dim ≠ f.dim then
        (.error (.dimensionMismatch "ensemble member" f.dim m.dim), events)
      else
        let m :=
          match f.constraints with
          | some c => m.setConstraints c
          | none => m
        let (rest, later) := buildMembers f build seed (i + 1) starts
        (rest.map (m :: ·), events ++ later)

/-- Starts the run of an ensemble. -/
def prepareEnsemble (f : Frame α) (build : Builder α) (members : List (Solver α))
    (box : Option (Box α)) (size : Nat) (seed : Seed) : Reply (Solver α) α Unit :=
  match f.drawStarts box seed with
  | .error e => .refuse (.ensemble f build members) e
  | .ok starts =>
    let drawn := .log (.ensembleDrawn starts.size f.starts size)
    match buildMembers f build seed 0 starts.rows with
    | (.error e, events) => ⟨.error e, .ensemble f build members, drawn :: events⟩
    | (.ok built, events) =>
      .done (.ensemble (f.begin starts) build built) ()
        (drawn :: events ++ [.log (.ensemblePrepared built.length)])

/-- Starts a run inside a box, or an unbounded one, from a seed. -/
def prepare (s : Solver α) (box : Option (Box α)) (size : Nat) (seed : Seed) :
    Reply (Solver α) α Unit :=
  match s with
  | .evolution e => (e.prepare box size seed).lift .evolution
  | .compass c => (c.prepare box size seed).lift .compass
  | .ensemble f build members => prepareEnsemble f build members box size seed

/-! ## Generations -/

/-- One generation of an ensemble whose active members make the given moves. -/
def stepEnsemble (f : Frame α) (build : Builder α) (members : List (Solver α))
    (moves : List (Dispatch.Move (Solver α) α)) (o : Objective α) (calls : Nat) :
    Reply (Solver α) α Bool × Nat :=
  match f.checkReady o with
  | .error e => (.refuse (.ensemble f build members) e, calls)
  | .ok _ =>
    if f.state.isTerminated then (.done (.ensemble f build members) true [], calls)
    else
      let moves := List.zipWith (fun (ms : Solver α × Bool) move =>
        if ms.2 then Dispatch.rest ms.1 else move) (members.zip f.stopped) moves
      let (replies, calls) := Dispatch.run f.map moves calls
      let afters := Dispatch.afters members replies
      let events := Dispatch.events replies
      match Dispatch.verdicts f.map.name members.length replies with
      | .error e =>
        let restored := (restoreAll afters (checkpoints members)).2
        (⟨.error e, .ensemble f build restored,
          events ++ [.log (.ensembleAbandoned (f.state.generation + 1) e)]⟩, calls)
      | .ok stopped =>
        (((f.conclude stopped (afters.map state)).lift (.ensemble · build afters)).preceded events,
          calls)

mutual

/-- Runs one generation; the result says whether the run has ended. -/
def step (o : Objective α) : Solver α → Dispatch.Move (Solver α) α
  | .evolution e => fun calls =>
    let (reply, calls) := e.step o calls
    (reply.lift .evolution, calls)
  | .compass c => fun calls =>
    let (reply, calls) := c.step o calls
    (reply.lift .compass, calls)
  | .ensemble f build members => stepEnsemble f build members (moves o members) o

/-- The generations of several solvers. -/
def moves (o : Objective α) : List (Solver α) → List (Dispatch.Move (Solver α) α)
  | [] => []
  | m :: ms => step o m :: moves o ms

end

end Solver

end BoxSearch

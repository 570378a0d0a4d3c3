import BoxSearch.Monitor
import BoxSearch.Solver.Solve

/-!
# Sessions

A `Session` is a solver at work on an objective, with everything around it that its
operations need: the monitors that watch its records, the registry through which an
interrupt reaches it, the checkpoints that were put aside, the keys that chance provides,
the files, and the log.

A monitor is attached to the evaluations or to the generations.  The newest one of
each side watches; the older ones keep what they have seen.  `Session.hear` hands an
event to the monitor that watches it, and `Session.hearAll` does so for a whole reply,
so nothing that a solver reports is lost or heard twice.
-/

namespace BoxSearch

/-- What a monitor is attached to. -/
inductive Watched where
  /-- the records of the evaluations -/
  | evaluations
  /-- the records of the generations -/
  | generations
  deriving DecidableEq, Repr

namespace Watched

/-- The side to which an event belongs, with its record. -/
def ofEvent {α : Type} : Event α → Option (Watched × Record α)
  | .evaluated r => some (.evaluations, r)
  | .generation r => some (.generations, r)
  | .log _ => none

end Watched

/-- Who is told of an interrupt. -/
inductive Listener where
  /-- the solver of the session -/
  | solver
  /-- somebody else in the process -/
  | other
  deriving DecidableEq, Repr

/-- A solver at work. -/
structure Session where
  /-- the solver -/
  solver : Solver Float
  /-- what it minimises -/
  objective : Objective Float
  /-- the evaluations of the objective so far, failed ones included -/
  calls : Nat
  /-- all whom an interrupt reaches -/
  registry : Registry Listener
  /-- the entry of this solver among them -/
  registration : Registration
  /-- all monitors, newest first -/
  attached : List (Watched × Monitor)
  /-- the checkpoints that were put aside, by name -/
  checkpoints : List (String × Checkpoint Float)
  /-- the keys that chance provides to runs without a seed -/
  entropy : Entropy
  /-- the files -/
  files : FileTree
  /-- the log, newest entry first -/
  log : List LogEntry

namespace Session

/-- A session that begins; unless told otherwise it repeats itself. -/
def start (solver : Solver Float) (objective : Objective Float) (files : FileTree)
    (entropy : Entropy := .frozen) : Session where
  solver := solver
  objective := objective
  calls := 0
  registry := .empty (.ok ())
  registration := .fresh
  attached := []
  checkpoints := []
  entropy := entropy
  files := files
  log := []

/-! ## Monitors -/

/-- Attaches a monitor in place of the one before it. -/
def attach (s : Session) (w : Watched) (m : Monitor) : Session :=
  { s with attached := (w, m) :: s.attached }

/-- The monitor that watches a side. -/
def watching (s : Session) (w : Watched) : Monitor := (s.attached.lookup w).getD .silent

/-- Whether an event makes a monitor ask the run to stop. -/
def asks (s : Session) (e : Event Float) : Bool :=
  match Watched.ofEvent e with
  | some (w, r) => (s.watching w).asksToStop r
  | none => false

/-- Hands a record to the newest monitor of a side; returns what that one logs. -/
def observe (w : Watched) (r : Record Float) :
    List (Watched × Monitor) → List (Watched × Monitor) × List LogEntry
  | [] => ([], [])
  | (v, m) :: rest =>
    if v = w then
      let (m, log) := m.observe r
      ((v, m) :: rest, log)
    else
      let (rest, log) := observe w r rest
      ((v, m) :: rest, log)

/-- Takes note of an event. -/
def hear (s : Session) (e : Event Float) : Session :=
  match e, Watched.ofEvent e with
  | .log entry, _ => { s with log := entry :: s.log }
  | _, some (w, r) =>
    let (attached, log) := observe w r s.attached
    { s with attached, log := log.reverse ++ s.log }
  | _, none => s

/-- Takes note of events, oldest first. -/
def hearAll (s : Session) (es : List (Event Float)) : Session := es.foldl hear s

/-- The records kept by the newest monitor of a side that keeps them in memory. -/
def memory (s : Session) (w : Watched) : List (Record Float) :=
  match s.attached.find? fun (v, m) => v = w && m matches .memory _ with
  | some (_, m) => m.records
  | none => []

/-- The newest monitor that keeps records for a file. -/
def table (s : Session) : Monitor :=
  match s.attached.find? fun (_, m) => m matches .table .. with
  | some (_, m) => m
  | none => .silent

/-- Writes the records of the newest table; returns the path of its file. -/
def writeTable (s : Session) : Except SolverError (Option String) × Session :=
  match s.table with
  | .table directory name records =>
    let (result, files) := Monitor.writeTable directory name records.toList s.files
    let s := { s with files }
    match result with
    | .error e => (.error e, s)
    | .ok (path, entry) => (.ok (some path), s.hear (.log entry))
  | _ => (.ok none, s)

/-! ## The solver -/

/-- The session after an operation on its solver. -/
def settle (s : Session) (reply : Reply (Solver Float) Float Unit) :
    Except SolverError Unit × Session :=
  (reply.result, { s with solver := reply.after }.hearAll reply.events)

/-- Starts a run; what is drawn by chance for it is not drawn again. -/
def prepare (s : Session) (box : Option (Box Float)) (size : Nat) (number : Option UInt64) :
    Except SolverError Unit × Session :=
  { s with entropy := s.entropy.below 1 }.settle
    (s.solver.prepare box size (.ofNumber? (s.entropy.below 0) number))

/-- Replaces the objective; its evaluations are counted anew. -/
def setObjective (s : Session) (objective : Objective Float) : Session :=
  { s with objective, calls := 0 }

/-- Runs up to `n` generations, fewer if one fails; the answer is that of the last one,
and `last` if there is none. -/
def steps (s : Session) (last : Option Bool) : Nat → Except SolverError (Option Bool) × Session
  | 0 => (.ok last, s)
  | n + 1 =>
    let (reply, calls) := s.solver.step s.objective s.calls
    let after := { s with solver := Solver.heed s.asks reply, calls }.hearAll reply.events
    match reply.result with
    | .error e => (.error e, after)
    | .ok done => after.steps (some done) n

/-- Solves with a budget of generations. -/
def solve (s : Session) (budget : Option Nat) : Except SolverError Unit × Session :=
  let (reply, calls) := s.solver.solve s.asks s.objective s.calls budget
  { s with calls }.settle reply

/-! ## Checkpoints -/

/-- Puts a checkpoint aside. -/
def save (s : Session) (name : String) : Session :=
  { s with checkpoints :=
      (name, s.solver.checkpoint) :: s.checkpoints.filter (·.1 ≠ name) }

/-- Goes back to a checkpoint. -/
def restore (s : Session) (c : Checkpoint Float) : Except SolverError Unit × Session :=
  let (result, solver) := s.solver.restore c
  (result, { s with solver })

/-- Goes back to a checkpoint that was put aside, which uses it up. -/
def restoreSaved (s : Session) (name : String) : Except SolverError Unit × Session :=
  match s.checkpoints.lookup name with
  | some c => { s with checkpoints := s.checkpoints.filter (·.1 ≠ name) }.restore c
  | none => (.ok (), s)

/-! ## Interrupts -/

/-- Lets interrupts reach the solver. -/
def enableInterrupts (s : Session) : Except SolverError Session := do
  let (registry, registration) ← s.registry.enable s.registration .solver
  .ok { s with registry, registration }

/-- Keeps interrupts from the solver. -/
def disableInterrupts (s : Session) : Session :=
  let (registry, registration) := s.registry.disable s.registration
  { s with registry, registration }

/-- An interrupt arrives. -/
def interrupt (s : Session) : Session :=
  let s := s.hear s.registry.report
  if s.registry.tokens.contains .solver then { s with solver := s.solver.cancel } else s

/-- An interrupt arrives while somebody else in the process waits for it, who is reached
by it too. -/
def interruptAwaited (s : Session) : Except SolverError Session := do
  let (registry, waiting) ← s.registry.enable .fresh .other
  let s := { s with registry }.interrupt
  .ok { s with registry := (s.registry.disable waiting).1 }

end Session

end BoxSearch

import BoxSearch.Objective
import BoxSearch.Text.LowerCase

/-!
# Evaluation maps

Solvers hand their points to the objective in batches, and a map decides how a
batch is worked off.  A map has two duties: `evaluate` gives one energy per point
in the order of the batch, or fails; `dispatch n` is the order in which `n` tasks
are run, each at its first mention.

* `serial` works in order and stops at the first failure;
* `threaded` evaluates every point of a batch, however small ones it leaves to
  `serial`;
* `pool` cuts the batch into as many pieces as it has workers.

All of them report the failure with the lowest place.  `MapKind` is the choice
between them as a configuration writes it down.
-/

namespace BoxSearch

/-- A way of evaluating batches. -/
structure EvaluationMap (α : Type) where
  /-- the name shown in logs -/
  name : String
  /-- the energies of a batch, and the number of evaluations after it -/
  evaluate : Objective α → Nat → List (Point α) → Except SolverError (List Float) × Nat
  /-- the order in which a number of tasks is run -/
  dispatch : Nat → List Nat

namespace EvaluationMap

variable {α : Type}

/-! ## Working off a batch -/

/-- Evaluates points in order, the first of them at place `index`, up to the first
failure. -/
def inOrder (o : Objective α) :
    Nat → Nat → List (Point α) → Except SolverError (List Float) × Nat
  | _, calls, [] => (.ok [], calls)
  | index, calls, x :: xs =>
    match o.evaluateAt calls index x with
    | .error e => (.error e, calls + 1)
    | .ok v =>
      let (rest, calls) := inOrder o (index + 1) (calls + 1) xs
      (rest.map (v :: ·), calls)

/-- Evaluates every point, the first of them at place `index`, whatever becomes of
the others. -/
def each (o : Objective α) (index calls : Nat) (xs : List (Point α)) :
    List (Except SolverError Float) × Nat :=
  (xs.mapIdx fun k x => o.evaluateAt (calls + k) (index + k) x, calls + xs.length)

/-- All values, or the first failure. -/
def gather : List (Except SolverError Float) → Except SolverError (List Float)
  | [] => .ok []
  | .error e :: _ => .error e
  | .ok v :: rest => (gather rest).map (v :: ·)

/-- A list cut into pieces of the given length, the last of which may be shorter;
`fuel` bounds the number of pieces. -/
def pieces {β : Type} (length : Nat) : Nat → List β → List (List β)
  | 0, _ => []
  | fuel + 1, xs =>
    if xs.isEmpty then [] else xs.take length :: pieces length fuel (xs.drop length)

/-- Evaluates piece after piece, the first point of the first piece at place
`index`. -/
def piecewise (o : Objective α) :
    Nat → Nat → List (List (Point α)) → List (Except SolverError Float) × Nat
  | _, calls, [] => ([], calls)
  | index, calls, piece :: rest =>
    let (values, calls) := each o index calls piece
    let (others, calls) := piecewise o (index + piece.length) calls rest
    (values ++ others, calls)

/-! ## The maps -/

/-- Evaluates in order and stops at the first failure. -/
def serial : EvaluationMap α where
  name := "serial"
  evaluate o calls xs := inOrder o 0 calls xs
  dispatch := List.range

/-- Evaluates every point of a batch with at least `minBatch` points. -/
def threaded (minBatch : Nat) : EvaluationMap α where
  name := "threaded"
  evaluate o calls xs :=
    if xs.length < minBatch then inOrder o 0 calls xs
    else
      let (results, calls) := each o 0 calls xs
      (gather results, calls)
  dispatch := List.range

/-- The smallest batch that a threaded map does not leave to the serial one, when
nothing else is said. -/
def defaultMinBatch : Nat := 4

/-- Cuts a batch into one contiguous piece per worker. -/
def pool (workers : Nat) : EvaluationMap α where
  name := "pool"
  evaluate o calls xs :=
    if xs.isEmpty then (.ok [], calls)
    else
      let workers := max workers 1
      let length := (xs.length + workers - 1) / workers
      let (results, calls) := piecewise o 0 calls (pieces length xs.length xs)
      (gather results, calls)
  dispatch := List.range

end EvaluationMap

/-! ## The choice in a configuration -/

/-- The maps that a configuration can name. -/
inductive MapKind where
  /-- in the calling thread -/
  | serial
  /-- by the threads of a shared pool, or of one's own with a number of threads -/
  | threaded
  /-- by a fixed set of workers -/
  | workerPool
  deriving DecidableEq, Repr

namespace MapKind

/-- The name shown in messages. -/
def display : MapKind → String
  | .serial => "Serial"
  | .threaded => "Threaded"
  | .workerPool => "WorkerPool"

/-- All spellings of a kind. -/
def spellings : MapKind → List String
  | .serial => ["serial"]
  | .threaded => ["threaded", "rayon", "parallel"]
  | .workerPool => ["pool", "workers", "worker_pool", "worker-pool"]

/-- The kind of a name. -/
def ofName (name : String) : Except SolverError MapKind :=
  match [serial, threaded, workerPool].find? fun k => k.spellings.contains (Text.nameKey name) with
  | some k => .ok k
  | none => .error (.configuration (.unknownMap name))

/-- The map of a kind, with a number of threads if one is given. -/
def build {α : Type} (kind : MapKind) (threads : Option Nat) : EvaluationMap α :=
  match kind with
  | .serial => .serial
  | .threaded => .threaded EvaluationMap.defaultMinBatch
  | .workerPool => .pool (threads.getD 1)

/-- The text that describes a threaded map. -/
def describeThreaded (threads minBatch : Nat) : String :=
  s!"ThreadedMap \x7b num_threads: {threads}, min_batch: {minBatch} \x7d"

/-- The text that describes a pool. -/
def describePool (workers : Nat) : String := s!"WorkerPoolMap \x7b workers: {workers} \x7d"

end MapKind

end BoxSearch

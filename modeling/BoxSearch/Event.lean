import BoxSearch.Sampling

/-!
# What a run reports

While it works, a solver reports events: a record for every evaluated point, a
record of the best point after every generation, and entries of the log.  The
events of an operation are listed in the order in which they happened, and they
stand even when the operation fails and its effects are taken back.

A log entry is kept as what it says, not as text; `LogEntry.text` words it when
somebody reads the log.
-/

namespace BoxSearch

/-! ## Records -/

/-- A point with its energy, and the number of evaluations spent by then. -/
structure Record (α : Type) where
  /-- evaluations spent when the record was made -/
  evaluations : Nat
  /-- the point -/
  point : Point α
  /-- its energy -/
  energy : Float
  deriving Repr

/-! ## The log -/

/-- How important a log entry is. -/
inductive Level where
  /-- for the one who looks for the cause of something -/
  | debug
  /-- for the one who follows a run -/
  | info
  /-- for the one who has to act -/
  | warn
  deriving DecidableEq, Repr

namespace Level

/-- The name of a level. -/
def name : Level → String
  | .debug => "DEBUG"
  | .info => "INFO"
  | .warn => "WARN"

/-- The place of a level in the order of importance. -/
def rank : Level → Nat
  | .debug => 0
  | .info => 1
  | .warn => 2

/-- Whether a level is at least as important as another. -/
def atLeast (l threshold : Level) : Bool := threshold.rank ≤ l.rank

end Level

/-- The log entries of this library. -/
inductive LogEntry where
  /-- the drawn population was evaluated -/
  | populationEvaluated (energies : List Float) (best : Float)
  /-- differential evolution was made ready -/
  | evolutionPrepared (dim free size : Nat) (init : Init) (strategy : Option String)
  /-- a generation of differential evolution failed -/
  | evolutionAbandoned (generation : Nat) (cause : SolverError)
  /-- a generation of differential evolution was completed -/
  | evolutionGeneration (generation : Nat) (best : Float) (energies : List Float) (accepted : Nat)
  /-- the times of a generation were measured -/
  | generationTimed (generation : Nat)
  /-- differential evolution ended -/
  | evolutionFinished (generations evaluations : Nat) (reason : String)
  /-- a compass search has no use for a population -/
  | populationIgnored (size : Nat)
  /-- a generation of a compass search was completed -/
  | compassGeneration (generation : Nat) (best : Float) (steps : List Float)
  /-- the members of an ensemble are about to be built -/
  | ensembleDrawn (members : Nat) (starts : StartPoints) (size : Nat)
  /-- an ensemble was made ready -/
  | ensemblePrepared (members : Nat)
  /-- an ensemble got another map -/
  | dispatcherChanged (map : String)
  /-- a generation of an ensemble failed -/
  | ensembleAbandoned (generation : Nat) (cause : SolverError)
  /-- a generation of an ensemble was completed -/
  | ensembleGeneration (generation : Nat) (best : Float) (active : Nat)
  /-- an ensemble ended -/
  | ensembleFinished (generations : Nat) (reason : String) (best : Float)
  /-- a solver has no use for a strategy -/
  | strategyIgnored (family strategy : String)
  /-- a run was stopped between generations -/
  | cancelled (generation : Nat)
  /-- an interrupt arrived -/
  | interrupted (solvers : Nat)
  /-- a monitor shows one of the records it saw -/
  | recordShown (index : Nat) (record : Record Float)
  /-- a monitor wrote its records to a file -/
  | recordsSaved (count : Nat) (path : String)

namespace LogEntry

/-- The level of an entry. -/
def level : LogEntry → Level
  | .populationEvaluated .. | .evolutionGeneration .. | .populationIgnored _
  | .compassGeneration .. | .ensembleDrawn .. | .dispatcherChanged _
  | .ensembleGeneration .. => .debug
  | .evolutionPrepared .. | .generationTimed _ | .evolutionFinished .. | .ensemblePrepared _
  | .ensembleFinished .. | .recordShown .. | .recordsSaved .. => .info
  | .evolutionAbandoned .. | .ensembleAbandoned .. | .strategyIgnored .. | .cancelled _
  | .interrupted _ => .warn

/-- A number brought to the width of a column. -/
def column (width n : Nat) : String := padLeft width (toString n)

/-- The coordinates that a monitor shows: the first six, and dots for the others. -/
def shownCoordinates (x : Point Float) : String :=
  ", ".intercalate ((x.take 6).map (fixed 4)) ++ if 6 < x.length then ", ..." else ""

/-- The wording of an entry.  The times of a generation are not part of it. -/
def text : LogEntry → String
  | .populationEvaluated energies best =>
    let mean := scientific 6 ((Energy.mean energies).getD Double.nan)
    let deviation := scientific 6 (Energy.deviation energies)
    let best := scientific 6 best
    s!"DE initial population: n={energies.length} mean={mean} std={deviation} best={best}"
  | .evolutionPrepared dim free size init strategy =>
    let init := init.display
    let strategy := strategy.getD "none"
    s!"DE init: {dim} dimensions ({free} free), population={size}, init={init}, strategy={strategy}"
  | .evolutionAbandoned generation cause =>
    s!"DE generation {generation} not committed: " ++ cause.message
  | .evolutionGeneration generation best energies accepted =>
    let generation := column 4 generation
    let best := scientific 6 best
    let deviation := scientific 3 (Energy.deviation energies)
    let size := energies.length
    s!"DE gen {generation}  best_f={best}  std={deviation}  accepted={accepted}/{size}"
  | .generationTimed generation => "TIMING gen " ++ column 4 generation
  | .evolutionFinished generations evaluations reason =>
    s!"DE finished after {generations} generations / {evaluations} evaluations: {reason}"
  | .populationIgnored size =>
    s!"pattern search uses a single point, ignoring population {size}"
  | .compassGeneration generation best steps =>
    let generation := column 4 generation
    let best := scientific 6 best
    let longest := scientific 3 (steps.foldl Double.larger 0.0)
    s!"pattern search gen {generation}  best_f={best}  max_step={longest}"
  | .ensembleDrawn members starts size =>
    let starts := starts.display
    s!"ensemble: {members} members from {starts} (population {size} unused)"
  | .ensemblePrepared members => s!"Ensemble initialized with {members} members"
  | .dispatcherChanged map => "ensemble members dispatched through map " ++ map
  | .ensembleAbandoned generation cause =>
    s!"ensemble generation {generation} not committed: " ++ cause.message
  | .ensembleGeneration generation best active =>
    let generation := column 4 generation
    let best := scientific 6 best
    s!"ensemble gen {generation}  best_f={best}  active={active}"
  | .ensembleFinished generations reason best =>
    let best := scientific 6 best
    s!"Ensemble finished after {generations} generations: {reason} (f={best})"
  | .strategyIgnored family strategy => family ++ " solver ignores strategy " ++ strategy
  | .cancelled generation => s!"Cancelled at generation {generation}"
  | .interrupted solvers => s!"Interrupt received, cancelling {solvers} running solver(s)"
  | .recordShown index record =>
    let index := column 5 index
    let evaluations := column 7 record.evaluations
    let energy := scientific 6 record.energy
    let shown := shownCoordinates record.point
    s!"record {index}  nfev={evaluations}  f={energy}  x=[{shown}]"
  | .recordsSaved count path => s!"Saved {count} monitor records to " ++ path

end LogEntry

/-! ## Events -/

/-- What happens during an operation. -/
inductive Event (α : Type) where
  /-- a point was evaluated in a batch that succeeded -/
  | evaluated (record : Record α)
  /-- a generation was completed; the record holds the best point -/
  | generation (record : Record α)
  /-- an entry of the log -/
  | log (entry : LogEntry)

namespace Event

variable {α : Type}

/-- The record of an evaluation. -/
def evaluated? : Event α → Option (Record α)
  | .evaluated r => some r
  | _ => none

/-- The record of a generation. -/
def generation? : Event α → Option (Record α)
  | .generation r => some r
  | _ => none

/-- Whether the event is the record of a generation. -/
def isGeneration (e : Event α) : Bool := e.generation?.isSome

end Event

end BoxSearch

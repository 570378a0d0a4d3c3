import BoxSearch.Decimal.Format

/-!
# What can go wrong

Every refusal of the library is a `SolverError`: a cause with the numbers that
describe it.  The wording stands in one place, `SolverError.message`, and the
causes fall into the categories of the four predicates at the end.

A `Fault` is a different matter: an index outside a list, a draw from nothing, a
count beyond 64 bits, or a table that no memory holds.  No setting was refused; the
request has no answer at all, and the operation in which it happens is abandoned as a
whole.
-/

namespace BoxSearch

/-! ## Faults -/

/-- A request without an answer. -/
inductive Fault where
  /-- the entry `index` of a list with `length` entries -/
  | indexOutOfRange (index length : Nat)
  /-- an index drawn from an empty range -/
  | emptyRange
  /-- a table with more entries than can be addressed -/
  | tooLarge
  /-- a count that 64 bits do not hold -/
  | overflow
  /-- a row replaced by one of another length -/
  | rowLength (expected got : Nat)
  deriving DecidableEq, Repr

namespace Fault

/-- The text under which a fault inside an objective is reported. -/
def message : Fault → String
  | .indexOutOfRange i n =>
    s!"ndarray: index {i} is out of bounds for array of shape [{n}]"
  | .emptyRange => "cannot sample empty range"
  | .tooLarge => "capacity overflow"
  | .overflow => "arithmetic overflow"
  | .rowLength e g => s!"cannot assign {g} coordinates to a row of {e}"

end Fault

/-- The entry of a list at a place, if the list reaches that far. -/
def entryAt {β : Type} (xs : List β) (i : Nat) : Except Fault β :=
  match xs[i]? with
  | some x => .ok x
  | none => .error (.indexOutOfRange i xs.length)

/-! ## Misuse -/

/-- A request that the configuration or the moment does not allow. -/
inductive Misuse where
  /-- no strategy has this name -/
  | unknownStrategy (name : String)
  /-- no evaluation map has this name -/
  | unknownMap (name : String)
  /-- a step before the solver was made ready -/
  | notReady
  /-- a step without a strategy -/
  | noStrategy
  /-- a step without a termination criterion -/
  | noCriterion
  /-- a step without an evaluation map -/
  | noMap
  /-- a problem without dimensions -/
  | zeroDimension
  /-- a population without members -/
  | zeroPopulation
  /-- a start value given before the solver was made ready -/
  | startTooEarly (what : String)
  /-- a start value given after the first generation -/
  | startTooLate (what : String)
  /-- a start population without rows -/
  | emptyStart
  /-- a start point given at the wrong moment -/
  | guessMoment
  /-- a target that is no member -/
  | targetOutside (target size : Nat)
  /-- a grid with no cell along a dimension -/
  | zeroBins
  /-- an ensemble without members -/
  | noStartPoints
  /-- a map that left out a member -/
  | memberNotRun (map : String) (index : Nat)
  /-- a checkpoint of another kind of solver -/
  | foreignCheckpoint
  /-- a refusal of a user's own plug-in -/
  | other (text : String)
  deriving DecidableEq, Repr

namespace Misuse

/-- The wording of a misuse. -/
def message : Misuse → String
  | .unknownStrategy name => "unknown strategy: " ++ name
  | .unknownMap name => "unknown evaluation map: " ++ name
  | .notReady => "solver not initialized: call initialize() first"
  | .noStrategy => "no strategy installed"
  | .noCriterion => "no termination criterion installed"
  | .noMap => "no evaluation map installed"
  | .zeroDimension => "problem dimension must be at least 1"
  | .zeroPopulation => "population size must be at least 1"
  | .startTooEarly what => "cannot set " ++ what ++ ": call initialize() first"
  | .startTooLate what => "cannot set " ++ what ++ " after the first generation"
  | .emptyStart => "initial population is empty"
  | .guessMoment => "initial guess must be set between initialize() and the first step"
  | .targetOutside target size => s!"target index {target} outside population of {size}"
  | .zeroBins => "grid bins must be at least 1"
  | .noStartPoints => "ensemble has no start points"
  | .memberNotRun map index => s!"map {map} did not run member {index}"
  | .foreignCheckpoint => "checkpoint belongs to a different solver"
  | .other text => text

end Misuse

/-! ## Files and surroundings -/

/-- Why a file could not be used. -/
inductive FileError where
  /-- there is nothing under that name -/
  | notFound
  /-- there is something under that name already -/
  | alreadyExists
  /-- a file stands where a directory is needed -/
  | notADirectory
  /-- a directory stands where a file is needed -/
  | isADirectory
  /-- the path is too long, or a part of it is longer than a directory can hold -/
  | nameTooLong
  /-- the name contains a character that no name can hold -/
  | embeddedNul
  deriving DecidableEq, Repr

namespace FileError

/-- The wording of a file error, with the system's number for it. -/
def message : FileError → String
  | .notFound => "No such file or directory (os error 2)"
  | .alreadyExists => "File exists (os error 17)"
  | .notADirectory => "Not a directory (os error 20)"
  | .isADirectory => "Is a directory (os error 21)"
  | .nameTooLong => "File name too long (os error 36)"
  | .embeddedNul => "file name contained an unexpected NUL byte"

end FileError

/-- Why a table of records could not be written. -/
inductive TableError where
  /-- the file could not be used -/
  | file (cause : FileError)
  /-- a row with another number of fields than the rows before it -/
  | unequalLengths (expected got : Nat)
  deriving DecidableEq, Repr

namespace TableError

/-- The wording of a table error. -/
def message : TableError → String
  | .file cause => cause.message
  | .unequalLengths expected got =>
    s!"CSV error: found record with {got} fields, but the previous record has {expected} fields"

end TableError

/-- Why the surroundings of a run could not be set up. -/
inductive EnvironmentError where
  /-- the directory of the records is a file -/
  | recordsDirIsFile (path : String)
  /-- the directory of the records could not be made -/
  | recordsDirCreationFailed (path : String) (cause : FileError)
  deriving DecidableEq, Repr

namespace EnvironmentError

/-- The wording of an environment error. -/
def message : EnvironmentError → String
  | .recordsDirIsFile path =>
    "EVOSOLVE_RECORDS_DIR points to a file, not a directory: " ++ path
  | .recordsDirCreationFailed path cause =>
    "Failed to create records directory " ++ path ++ ": " ++ cause.message

end EnvironmentError

/-! ## Errors -/

/-- The causes of a failed operation. -/
inductive SolverError where
  /-- the configuration or the moment does not allow it -/
  | configuration (cause : Misuse)
  /-- two lists of endpoints of different lengths -/
  | boundsMismatch (lower upper : Nat)
  /-- a lower endpoint that is not at most the upper one -/
  | invalidBounds (index : Nat) (lower upper : Float)
  /-- something of the wrong dimension -/
  | dimensionMismatch (what : String) (expected got : Nat)
  /-- a population too small for the strategy -/
  | insufficientPopulation (required available : Nat)
  /-- a mutation factor outside its range -/
  | invalidMutationFactor (factor : Float)
  /-- a crossover rate outside its range -/
  | invalidCrossoverRate (rate : Float)
  /-- the objective gave no value for a vector of a batch -/
  | evaluation (index : Nat) (message : String)
  /-- the handler of interrupts could not be installed -/
  | signalHandler (message : String)
  /-- a file could not be used -/
  | file (cause : FileError)
  /-- a table could not be written -/
  | table (cause : TableError)
  /-- a document could not be read -/
  | document
  /-- the surroundings could not be set up -/
  | environment (cause : EnvironmentError)
  /-- a request without an answer -/
  | fault (cause : Fault)

namespace SolverError

/-- The wording of an error. -/
def message : SolverError → String
  | .configuration cause => "configuration error: " ++ cause.message
  | .boundsMismatch lower upper =>
    s!"bounds mismatch: lower has {lower} elements, upper has {upper}"
  | .invalidBounds index lower upper =>
    let lower := NumberFormat.plain.write lower
    let upper := NumberFormat.plain.write upper
    s!"invalid bounds at index {index}: lower ({lower}) > upper ({upper})"
  | .dimensionMismatch what expected got =>
    s!"{what} dimension mismatch: expected {expected}, got {got}"
  | .insufficientPopulation required available =>
    s!"insufficient population: strategy needs at least {required} members, population has {available}"
  | .invalidMutationFactor factor =>
    "invalid mutation factor: " ++ NumberFormat.plain.write factor ++ " (must be in [0, 2])"
  | .invalidCrossoverRate rate =>
    "invalid crossover rate: " ++ NumberFormat.plain.write rate ++ " (must be in [0, 1])"
  | .evaluation index message => s!"evaluation of vector {index} failed: {message}"
  | .signalHandler message => "signal handler error: " ++ message
  | .file cause => "I/O error: " ++ cause.message
  | .table cause => "CSV error: " ++ cause.message
  | .document => "JSON error"
  | .environment cause => "environment error: " ++ cause.message
  | .fault cause => cause.message

/-! ## Categories -/

/-- Whether the configuration is at fault. -/
def isConfigError : SolverError → Bool
  | .configuration _ | .insufficientPopulation .. | .invalidMutationFactor _
  | .invalidCrossoverRate _ => true
  | _ => false

/-- Whether the bounds are at fault. -/
def isBoundsError : SolverError → Bool
  | .boundsMismatch .. | .invalidBounds .. => true
  | _ => false

/-- Whether a dimension is at fault. -/
def isDimensionError : SolverError → Bool
  | .dimensionMismatch .. => true
  | _ => false

/-- Whether the objective is at fault. -/
def isEvaluationError : SolverError → Bool
  | .evaluation .. => true
  | _ => false

/-- The fault behind an error, if it is one. -/
def fault? : SolverError → Option Fault
  | .fault cause => some cause
  | _ => none

end SolverError

/-! ## Sizes -/

namespace Size

/-- The largest number of bytes that one table may take. -/
def addressable : Nat := UInt64.size / 2 - 1

/-- Refuses a list that cannot be addressed: so many entries of so many bytes. -/
def checkList (bytes entries : Nat) : Except SolverError Unit :=
  if addressable < bytes * entries then .error (.fault .tooLarge) else .ok ()

/-- Refuses a point that cannot be addressed: eight bytes for each coordinate. -/
def checkPoint (dim : Nat) : Except SolverError Unit := checkList 8 dim

/-- Refuses a table of numbers that cannot be addressed: eight bytes for each entry,
and neither side beyond all bounds, even where the other one is zero. -/
def checkTable (rows columns : Nat) : Except SolverError Unit :=
  if addressable < max rows columns then .error (.fault .tooLarge)
  else checkList 8 (rows * columns)

/-- A count, unless it is beyond 64 bits. -/
def count (n : Nat) : Except SolverError Nat :=
  if n < UInt64.size then .ok n else .error (.fault .overflow)

end Size

end BoxSearch

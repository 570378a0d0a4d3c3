import BoxSearch.Benchmark.Catalog
import BoxSearch.CommandLine.Options
import BoxSearch.Config.Document
import BoxSearch.Session

/-!
# A run of the command line

The command line minimises a benchmark with differential evolution, or lists the
benchmarks.  `CommandLine.run` gives the `Outcome` of a list of arguments: the lines
that are shown, the exit code, and the files afterwards.

The exit code is 0 for a run that ended by its criterion or its limits, 1 for one
that failed or was stopped, 2 when no run could be set up, and 101 when a request had
no answer.  What is at fault is looked for in this order: the arguments, the name of
the benchmark, the dimension, the configuration with the options that override it,
and the solver made of it.
-/

namespace BoxSearch

namespace CommandLine

/-! ## Outcomes -/

/-- A line that is shown. -/
inductive Line where
  /-- a line of output -/
  | out (text : String)
  /-- a line of complaint -/
  | err (text : String)
  /-- the line of output that tells how long the run took -/
  | elapsed
  deriving DecidableEq, Repr

/-- What a list of arguments leads to. -/
structure Outcome where
  /-- the exit code -/
  code : Nat
  /-- the lines, in the order in which they are shown -/
  lines : List Line
  /-- what was logged, oldest first -/
  log : List LogEntry
  /-- the files afterwards -/
  files : FileTree

/-- The exit code of a request without an answer. -/
def faultCode : Nat := 101

/-- Why no run is set up. -/
inductive Setback where
  /-- something is wrong, and said to be so -/
  | complaint (text : String)
  /-- a request without an answer -/
  | fault
  deriving DecidableEq, Repr

/-- Turns a refusal of the library into a complaint. -/
def complain {α : Type} (r : Except SolverError α) : Except Setback α :=
  r.mapError fun e => if e.fault?.isSome then .fault else .complaint e.message

/-! ## Listing -/

/-- The line of a benchmark in the list. -/
def listed (name : String) : String :=
  match Benchmark.find? name with
  | some b => "- " ++ padRight 24 name ++ " " ++ b.description
  | none => "- " ++ name

/-- The list of the benchmarks. -/
def listing : List Line :=
  .out s!"Available test functions ({Benchmark.names.length}):" ::
    Benchmark.names.map fun name => .out (listed name)

/-! ## Setting up -/

/-- The weight of a violated constraint of a benchmark. -/
def constraintWeight : Float := 1e6

/-- The range of a dimension about which the catalog says nothing. -/
def defaultRange : Float × Float := (-5.0, 5.0)

/-- The dimension in which a benchmark is searched when none is given. -/
def usualDimension (b : Benchmark) : Nat :=
  match b.dimensions with
  | n :: _ => if 0 < n then n else if b.sides.isEmpty then 2 else b.sides.length
  | [] => if b.sides.isEmpty then 2 else b.sides.length

/-- The configuration: that of the file, overridden by the options. -/
def configure (o : Options) (files : FileTree) : Except SolverError Config := do
  let mut c : Config ←
    match o.configuration with
    | some path => do Config.ofText (← (files.read path).mapError SolverError.file)
    | none => pure .standard
  if let some name := o.strategy then c := { c with variant := ← Variant.ofName name }
  if let some n := o.population then c := { c with populationSize := some n }
  if let some n := o.generations then c := { c with maxGenerations := some n }
  if let some n := o.seed then c := { c with seed := some (UInt64.ofNat n) }
  if let some name := o.map then c := { c with map := ← MapKind.ofName name }
  if let some n := o.threads then c := { c with threads := if n = 0 then none else some n }
  .ok c

/-- The constraints of a benchmark, beside the rounding that a configuration asks
for. -/
def constraintsOf (b : Benchmark) (c : Config) (box : Box Float) :
    Except SolverError (Constraints Float) := do
  let penalties := b.constraints.map fun g => Penalty.inequality g constraintWeight
  .ok ((← c.constraints box).withPenalty (.set penalties))

/-- A run that is set up. -/
structure Job where
  /-- the benchmark -/
  benchmark : Benchmark
  /-- the dimension of the problem -/
  dim : Nat
  /-- the configuration -/
  config : Config
  /-- the solver at work, with its monitors -/
  session : Session

/-- Sets a run up; `entropy` is the seed of a run about which nothing is said, and
`timed` says whether generations are timed. -/
def Job.ofOptions (o : Options) (entropy : UInt64) (timed : Bool) (files : FileTree) :
    Except Setback Job := do
  let some name := o.function.map Text.nameKey
    | .error (.complaint "--function must be provided unless --list-functions is used.")
  let some benchmark := Benchmark.find? name
    | .error (.complaint (s!"function '{name}' not found. " ++
        "Use --list-functions to inspect available names."))
  let dim := o.dimension.getD (usualDimension benchmark)
  if dim = 0 then .error (.complaint "problem dimension must be greater than zero.")
  let config ← complain (configure o files)
  let config := { config with seed := some (config.seed.getD entropy) }
  let box ← complain (Benchmark.sidesFor name dim defaultRange >>= Box.ofPairs)
  let (built, events) := config.build box timed
  let solver ← complain built
  let solver ←
    if benchmark.constraints.isEmpty then pure solver
    else do pure { solver with constraints := ← complain (constraintsOf benchmark config box) }
  let session := Session.start (.evolution solver) benchmark.toObjective files
  let session := session.hearAll events
  let progress := max 1 (o.progressEvery.getD Options.defaultProgress)
  let session := session.attach .generations (.everyNth progress)
  let session :=
    match o.recordsDir with
    | some directory => session.attach .evaluations (.table directory name #[])
    | none => session
  .ok ⟨benchmark, dim, config, (session.enableInterrupts.toOption).getD session⟩

/-! ## Running -/

/-- Numbers with commas between them. -/
def vectorText (x : Point Float) : String := ", ".intercalate (x.map (fixed 6))

/-- The lines about the table of evaluations, and the session after it was written. -/
def recordLines (s : Session) : List Line × Session :=
  match s.writeTable with
  | (.ok (some path), s) =>
    ([.out s!"Recorded {s.table.records.length} evaluations to {path}"], s)
  | (.ok none, s) => ([], s)
  | (.error e, s) => ([.err ("Warning: failed to write records: " ++ e.message)], s)

/-- How a run ended. -/
def statusLine (result : Except SolverError Unit) (s : State Float) : String :=
  match result, s.status with
  | .error e, _ => "Status: failed: " ++ e.message
  | .ok _, .cancelled => "Status: cancelled, best so far shown"
  | .ok _, _ => "Status: " ++ (Report.ofState s).message

/-- The line about the known minimum of a benchmark, if it is one of that dimension. -/
def minimumLines (b : Benchmark) (dim : Nat) : List Line :=
  match b.minima with
  | (x, f) :: _ =>
    if x.length = dim then
      [.out ("Known minimum: " ++ scientific 6 f ++ " at [" ++ vectorText x ++ "]")]
    else []
  | [] => []

/-- Runs what is set up. -/
def Job.run (j : Job) : Outcome :=
  let size := j.session.solver.state.population.size
  let head := s!"Running evosolve DE on '{j.benchmark.name}' ({j.dim}D) with " ++
    s!"{j.config.variant.name} strategy, population {size}..."
  let (result, session) := j.session.solve none
  match result with
  | .error (.fault _) => ⟨faultCode, [.out head], session.log.reverse, session.files⟩
  | _ =>
    let (recorded, session) := recordLines session
    let report := Report.ofState session.solver.state
    let counts := s!"Generations: {report.generations} | Evaluations: {report.evaluations}"
    let ending := [.out "", .elapsed, .out (statusLine result session.solver.state),
      .out (counts ++ s!" | Success: {report.success}"),
      .out ("Best objective: " ++ scientific 6 report.energy),
      .out ("Best parameters: [" ++ vectorText report.point ++ "]")]
    ⟨if result.toOption.isSome && report.success then 0 else 1,
      .out head :: recorded ++ ending ++ minimumLines j.benchmark j.dim,
      session.log.reverse, session.files⟩

/-- The least important level that a log filter lets through, if any. -/
def threshold? (filter : String) : Option Level :=
  match filter with
  | "off" | "error" => none
  | "warn" => some .warn
  | "debug" | "trace" => some .debug
  | _ => some .info

/-- The entries of a log that a filter lets through. -/
def shownLog (filter : String) (log : List LogEntry) : List LogEntry :=
  match threshold? filter with
  | some least => log.filter (·.level.atLeast least)
  | none => []

/-- A time in nanoseconds, with two decimals in the largest unit that does not exceed
it. -/
def durationText (nanos : Nat) : String :=
  let (unit, name) :=
    if 1000000000 ≤ nanos then (1000000000, "s")
    else if 1000000 ≤ nanos then (1000000, "ms")
    else if 1000 ≤ nanos then (1000, "\u00b5s")
    else (1, "ns")
  let hundredths := (100 * nanos + unit / 2) / unit
  let rest := toString (hundredths % 100)
  let rest := if rest.length < 2 then "0" ++ rest else rest
  s!"{hundredths / 100}.{rest}{name}"

/-- Does what a list of arguments asks for. -/
def run (args : List String) (entropy : UInt64) (timed : Bool) (files : FileTree) : Outcome :=
  match Options.ofArgs args with
  | .error .usage => ⟨2, [], [], files⟩
  | .error .help => ⟨0, [], [], files⟩
  | .ok o =>
    if o.listFunctions then ⟨0, listing, [], files⟩
    else
      match Job.ofOptions o entropy timed files with
      | .error (.complaint text) => ⟨2, [.err ("Error: " ++ text)], [], files⟩
      | .error .fault => ⟨faultCode, [], [], files⟩
      | .ok job => job.run

end CommandLine

end BoxSearch

import BoxSearch.Text.Blank

/-!
# Options of the command line

An option is given as `--name value` or as `--name=value`, at most once.  A value that
stands on its own must not look like an option, so a value that starts with a dash
needs the second form; a single dash is a value.  There are no other arguments: a
double dash may end the options, but nothing may follow it.

`Options.ofArgs` reads the arguments from left to right and stops at the first one that
it does not understand, or at a request for help.
-/

namespace BoxSearch

namespace CommandLine

/-- What the options of the command line say. -/
structure Options where
  /-- the benchmark to be minimised -/
  function : Option String
  /-- the dimension of the problem -/
  dimension : Option Nat
  /-- the file of a configuration -/
  configuration : Option String
  /-- the name of a strategy -/
  strategy : Option String
  /-- the number of members -/
  population : Option Nat
  /-- the largest number of generations -/
  generations : Option Nat
  /-- the seed of the generator -/
  seed : Option Nat
  /-- the name of an evaluation map -/
  map : Option String
  /-- the number of threads, where 0 stands for all there are -/
  threads : Option Nat
  /-- the directory of a table of all evaluations -/
  recordsDir : Option String
  /-- the best point is logged every so-many generations -/
  progressEvery : Option Nat
  /-- the benchmarks are listed and nothing is minimised -/
  listFunctions : Bool
  deriving DecidableEq, Repr

/-- Why there are no options. -/
inductive Refusal where
  /-- an argument is not understood -/
  | usage
  /-- an explanation of the options is asked for -/
  | help
  deriving DecidableEq, Repr

namespace Options

/-- No option is given. -/
def none : Options :=
  ⟨.none, .none, .none, .none, .none, .none, .none, .none, .none, .none, .none, false⟩

/-- The generations between two log entries when nothing is said. -/
def defaultProgress : Nat := 10

/-! ## Values -/

/-- A natural number below `2 ^ 64`, with or without a plus sign. -/
def number? (text : String) : Option Nat :=
  let digits :=
    match text.toList with
    | '+' :: cs => cs
    | cs => cs
  if digits.isEmpty || !digits.all Char.isDigit then .none
  else
    let n := digits.foldl (fun n c => 10 * n + (c.toNat - '0'.toNat)) 0
    if n < UInt64.size then some n else .none

/-- A path: anything but the empty text. -/
def path? (text : String) : Option String := if text.isEmpty then .none else some text

/-- A value that is set for the first time. -/
def once {α : Type} (old new : Option α) : Option (Option α) :=
  if old.isSome then .none else new.map some

/-! ## Options -/

/-- Sets an option; none when there is no such option, when it is set already, or when
its value cannot be read. -/
def set? (o : Options) (name value : String) : Option Options :=
  match name with
  | "function" => (once o.function (some value)).map ({ o with function := · })
  | "dim" => (once o.dimension (number? value)).map ({ o with dimension := · })
  | "config" => (once o.configuration (path? value)).map ({ o with configuration := · })
  | "strategy" => (once o.strategy (some value)).map ({ o with strategy := · })
  | "population" => (once o.population (number? value)).map ({ o with population := · })
  | "maxiter" => (once o.generations (number? value)).map ({ o with generations := · })
  | "seed" => (once o.seed (number? value)).map ({ o with seed := · })
  | "map" => (once o.map (some value)).map ({ o with map := · })
  | "threads" => (once o.threads (number? value)).map ({ o with threads := · })
  | "record" => (once o.recordsDir (path? value)).map ({ o with recordsDir := · })
  | "progress-every" =>
    (once o.progressEvery (number? value)).map ({ o with progressEvery := · })
  | _ => .none

/-- A name cut from the value behind an equals sign. -/
def cut (cs : List Char) : String × Option String :=
  let name := String.ofList (cs.takeWhile (· ≠ '='))
  match cs.dropWhile (· ≠ '=') with
  | _ :: value => (name, some (String.ofList value))
  | [] => (name, .none)

/-- Whether an argument can be a value on its own. -/
def isValue (arg : String) : Bool := arg = "-" || arg.toList.head? ≠ some '-'

/-! ## Arguments -/

/-- Adds the options of arguments to those given so far. -/
def read (o : Options) : List String → Except Refusal Options
  | [] => .ok o
  | arg :: rest =>
    match arg.toList with
    | ['-', '-'] => if rest.isEmpty then .ok o else .error .usage
    | '-' :: '-' :: cs =>
      match cut cs, rest with
      | ("help", .none), _ => .error .help
      | ("list-functions", .none), rest =>
        if o.listFunctions then .error .usage else read { o with listFunctions := true } rest
      | (name, some value), rest =>
        match o.set? name value with
        | some o => read o rest
        | .none => .error .usage
      | (name, .none), value :: rest =>
        if isValue value then
          match o.set? name value with
          | some o => read o rest
          | .none => .error .usage
        else .error .usage
      | (_, .none), [] => .error .usage
    | '-' :: 'h' :: _ => .error .help
    | _ => .error .usage

/-- The options of a list of arguments. -/
def ofArgs (args : List String) : Except Refusal Options := read none args

end Options

end CommandLine

end BoxSearch

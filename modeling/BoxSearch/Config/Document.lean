import BoxSearch.Config.Basic
import BoxSearch.Json.Reader
import BoxSearch.Json.Record
import BoxSearch.Json.Writer

/-!
# Configurations as documents

How the settings of a run are written as JSON, and read back.  Every setting has a
function to its document and a reader from it:

* a variant is a text with its name;
* a mutation setting and a choice of start points are objects whose only key says
  which one it is;
* the drawing of a population and the evaluation map are their names;
* a criterion is an object whose `kind` says which one it is, next to its settings;
* a configuration is an object in which every key may be left out.

A criterion is looked at as a whole before its `kind` is known, so everything in it
has to be readable, its unknown members included.
-/

namespace BoxSearch

namespace Json

/-! ## Variants, mutation, drawing, maps, start points -/

/-- A variant: its name. -/
def ofVariant (v : Variant) : Json := .text v.name

/-- Reads a variant from any spelling of its name. -/
def variant? (j : Json) : Option Variant := do
  (Variant.ofName (← j.text?)).toOption

/-- A mutation setting. -/
def ofMutation : Mutation Float → Json
  | .factor f => .record [("factor", .float f)]
  | .range low high => .record [("range", .record [("min", .float low), ("max", .float high)])]

/-- Reads a mutation setting. -/
def mutation? (levels : Nat) (j : Json) : Option (Mutation Float) := do
  let (name, v) ← j.tag? levels
  if name = "factor" then some (.factor (← v.float?))
  else if name = "range" then
    let fields ← v.record? (levels - 1) ["min", "max"]
    some (.range (← fields.required "min" float?) (← fields.required "max" float?))
  else none

/-- The name of a way of drawing. -/
def initName : Init → String
  | .latinHypercube => "latin_hypercube"
  | .random => "random"

/-- A way of drawing: its name. -/
def ofInit (i : Init) : Json := .text (initName i)

/-- Reads a way of drawing. -/
def init? (levels : Nat) (j : Json) : Option Init := do
  let name ← j.plainTag? levels
  [Init.latinHypercube, Init.random].find? (initName · == name)

/-- The name of a map. -/
def mapName : MapKind → String
  | .serial => "serial"
  | .threaded => "threaded"
  | .workerPool => "worker_pool"

/-- A map: its name. -/
def ofMap (m : MapKind) : Json := .text (mapName m)

/-- Reads a map. -/
def map? (levels : Nat) (j : Json) : Option MapKind := do
  let name ← j.plainTag? levels
  [MapKind.serial, MapKind.threaded, MapKind.workerPool].find? (mapName · == name)

/-- A choice of start points. -/
def ofStartPoints : StartPoints → Json
  | .grid bins => .record [("grid", .record [("bins", .list nat bins)])]
  | .scattershot count => .record [("scattershot", .record [("npts", nat count)])]

/-- Reads a choice of start points. -/
def startPoints? (levels : Nat) (j : Json) : Option StartPoints := do
  let (name, v) ← j.tag? levels
  if name = "grid" then
    let fields ← v.record? (levels - 1) ["bins"]
    some (.grid (← fields.required "bins" (list? (levels - 2) nat?)))
  else if name = "scattershot" then
    let fields ← v.record? (levels - 1) ["npts"]
    some (.scattershot (← fields.required "npts" nat?))
  else none

/-! ## Criteria -/

/-- The kinds of criteria, in the order in which they are numbered. -/
def criterionKinds : List String :=
  ["max_generations", "max_evaluations", "vtr", "change_over_generation",
    "normalized_change_over_generation", "candidate_relative_tolerance",
    "population_energy_std", "stagnation", "never", "any", "all"]

/-- A test. -/
def ofTest : Test → Json
  | .maxGenerations n => .record [("kind", text "max_generations"), ("generations", nat n)]
  | .maxEvaluations n => .record [("kind", text "max_evaluations"), ("evaluations", nat n)]
  | .valueToReach x => .record [("kind", text "vtr"), ("target", float x)]
  | .change x n =>
    .record [("kind", text "change_over_generation"), ("tolerance", float x),
      ("generations", nat n)]
  | .relativeChange x n =>
    .record [("kind", text "normalized_change_over_generation"), ("tolerance", float x),
      ("generations", nat n)]
  | .collapse x f =>
    .record [("kind", text "candidate_relative_tolerance"), ("xtol", float x), ("ftol", float f)]
  | .energyDeviation t a =>
    .record [("kind", text "population_energy_std"), ("tol", float t), ("atol", float a)]
  | .stagnation n => .record [("kind", text "stagnation"), ("generations", nat n)]
  | .never => .record [("kind", text "never")]

mutual

/-- A criterion. -/
def ofCriterion : Criterion → Json
  | .test t => ofTest t
  | .any cs => .record [("kind", text "any"), ("criteria", .array (ofCriteria cs))]
  | .all cs => .record [("kind", text "all"), ("criteria", .array (ofCriteria cs))]

/-- A list of criteria. -/
def ofCriteria : List Criterion → List Json
  | [] => []
  | c :: cs => ofCriterion c :: ofCriteria cs

end

/-- The kind named by a tag.  Inside another criterion a kind may also be given by its
number. -/
def kind? (inner : Bool) (j : Json) : Option String :=
  match j.text?, inner with
  | some name, _ => if criterionKinds.contains name then some name else none
  | none, true => j.nat?.bind (criterionKinds[·]?)
  | none, false => none

/-- The kind of a criterion, and the rest of it.  In a list the kind comes first. -/
def splitKind (inner : Bool) : Json → Option (String × Json)
  | .object members =>
    match members.partition (·.1 == some "kind") with
    | ([(_, v)], rest) => (kind? inner v).map (·, .object rest)
    | _ => none
  | .array (v :: rest) => (kind? inner v).map (·, .array rest)
  | _ => none

/-- Reads a test of the given kind from the rest of its document. -/
def test? (kind : String) (body : Json) : Option Test := do
  match kind with
  | "max_generations" =>
    let fields ← body.fields? ["generations"]
    some (.maxGenerations (← fields.required "generations" nat?))
  | "max_evaluations" =>
    let fields ← body.fields? ["evaluations"]
    some (.maxEvaluations (← fields.required "evaluations" nat?))
  | "vtr" =>
    let fields ← body.fields? ["target"]
    some (.valueToReach (← fields.required "target" float?))
  | "change_over_generation" =>
    let fields ← body.fields? ["tolerance", "generations"]
    some (.change (← fields.required "tolerance" float?) (← fields.required "generations" nat?))
  | "normalized_change_over_generation" =>
    let fields ← body.fields? ["tolerance", "generations"]
    some (.relativeChange (← fields.required "tolerance" float?)
      (← fields.required "generations" nat?))
  | "candidate_relative_tolerance" =>
    let fields ← body.fields? ["xtol", "ftol"]
    some (.collapse (← fields.required "xtol" float?) (← fields.required "ftol" float?))
  | "population_energy_std" =>
    let fields ← body.fields? ["tol", "atol"]
    some (.energyDeviation (← fields.required "tol" float?) (← fields.required "atol" float?))
  | "stagnation" =>
    let fields ← body.fields? ["generations"]
    some (.stagnation (← fields.required "generations" nat?))
  | "never" =>
    match body with
    | .array (_ :: _) => none
    | _ => some .never
  | _ => none

/-- The members of an `any` or `all` criterion, from the rest of its document. -/
def branches? (body : Json) : Option (List Json) := do
  let fields ← body.fields? ["criteria"]
  fields.required "criteria" fun
    | .array items => some items
    | _ => none

/-- Reads a criterion that is nested no deeper than the given number of levels. -/
def criterionFrom? : Nat → Bool → Json → Option Criterion
  | 0, _, _ => none
  | levels + 1, inner, j => do
    let (kind, body) ← splitKind inner j
    if kind = "any" then
      some (.any (← (← branches? body).mapM (criterionFrom? levels true)))
    else if kind = "all" then
      some (.all (← (← branches? body).mapM (criterionFrom? levels true)))
    else some (.test (← test? kind body))

/-- Reads a criterion. -/
def criterion? (levels : Nat) (j : Json) : Option Criterion :=
  if j.readable levels then criterionFrom? levels false j else none

/-! ## Configurations -/

/-- The keys of a configuration. -/
def configKeys : List String :=
  ["population_size", "seed", "strategy", "mutation", "recombination", "init", "termination",
    "map", "num_threads", "max_generations", "max_evaluations", "integrality", "x0"]

/-- A configuration. -/
def ofConfig (c : Config) : Json :=
  .record (configKeys.zip
    [.option nat c.populationSize, .option (fun s => nat s.toNat) c.seed, ofVariant c.variant,
      ofMutation c.mutation, float c.rate, ofInit c.init, ofCriterion c.criterion,
      ofMap c.map, .option nat c.threads, .option nat c.maxGenerations,
      .option nat c.maxEvaluations, .option (.list .bool) c.integrality,
      .option (.list float) c.guess])

/-- Reads a configuration; a key that is left out has its standard setting. -/
def config? (levels : Nat) (j : Json) : Option Config := do
  let fields ← j.record? levels configKeys
  let levels := levels - 1
  let s := Config.standard
  some {
    populationSize := ← fields.optional "population_size" s.populationSize (option? nat?)
    seed := ← fields.optional "seed" s.seed (option? fun j => j.nat?.map UInt64.ofNat)
    variant := ← fields.optional "strategy" s.variant variant?
    mutation := ← fields.optional "mutation" s.mutation (mutation? levels)
    rate := ← fields.optional "recombination" s.rate float?
    init := ← fields.optional "init" s.init (init? levels)
    criterion := ← fields.optional "termination" s.criterion (criterion? levels)
    map := ← fields.optional "map" s.map (map? levels)
    threads := ← fields.optional "num_threads" s.threads (option? nat?)
    maxGenerations := ← fields.optional "max_generations" s.maxGenerations (option? nat?)
    maxEvaluations := ← fields.optional "max_evaluations" s.maxEvaluations (option? nat?)
    integrality := ← fields.optional "integrality" s.integrality (option? (list? levels bool?))
    guess := ← fields.optional "x0" s.guess (option? (list? levels float?)) }

end Json

namespace Config

/-- The text of a configuration. -/
def toText (c : Config) : String := (Json.ofConfig c).pretty

/-- The configuration that a text is. -/
def ofText (s : String) : Except SolverError Config :=
  match (Json.read? s).bind (Json.config? Json.maxLevels) with
  | some c => .ok c
  | none => .error .document

end Config

end BoxSearch

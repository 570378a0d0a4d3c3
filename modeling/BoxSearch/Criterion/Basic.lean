import BoxSearch.Error
import BoxSearch.State

/-!
# Termination criteria

A criterion is a tree: its leaves are tests of the state of a run, and its inner
nodes ask for `any` or for `all` of their members.  `Criterion` is the tree as it
is written down; a `Watch` is the same tree while a run goes on, with a `Memory`
at every leaf and, at every `any` node, the member that fired when it was asked
last.

* `Watch.ask` asks left to right and stops as soon as the answer is known, so a
  member that is skipped does not see the state;
* `Watch.fault?` says whether asking would count beyond 64 bits, and `Watch.answer`
  asks only if it would not;
* a test with a memory takes in at most one observation per generation;
* `Watch.reason` is the text of why a run stopped, and `Watch.reset` forgets.
-/

namespace BoxSearch

/-! ## Tests -/

/-- What a leaf looks at. -/
inductive Test where
  /-- enough generations are completed -/
  | maxGenerations (generations : Nat)
  /-- enough evaluations are spent -/
  | maxEvaluations (evaluations : Nat)
  /-- the best energy is at or below the target -/
  | valueToReach (target : Float)
  /-- the best energy moved by at most the tolerance over a number of generations -/
  | change (tolerance : Float) (generations : Nat)
  /-- the same, relative to the best energy -/
  | relativeChange (tolerance : Float) (generations : Nat)
  /-- every member is close to the best point, and every energy to the best energy -/
  | collapse (xtol ftol : Float)
  /-- the energies deviate little from their mean -/
  | energyDeviation (tol atol : Float)
  /-- no new best energy for a number of generations -/
  | stagnation (generations : Nat)
  /-- never -/
  | never
  deriving Repr

/-- What a leaf remembers. -/
structure Memory where
  /-- the generation observed last -/
  lastGeneration : Option Nat
  /-- the best energies of the observed generations, oldest first -/
  window : List Float
  /-- the lowest best energy observed -/
  lowest : Option Float
  /-- how many observations in a row were no improvement on it -/
  stale : Nat
  deriving Repr

namespace Memory

/-- Nothing observed yet. -/
def blank : Memory := ⟨none, [], none, 0⟩

/-- Takes in the best energy of a generation not seen yet; of the window only the
newest `length` entries are kept. -/
def observe (m : Memory) (length generation : Nat) (best : Float) : Memory :=
  if m.lastGeneration = some generation then m
  else
    let window := m.window ++ [best]
    { m with
      lastGeneration := some generation
      window := window.drop (window.length - length) }

/-- The oldest and the newest entry of a window of the given length, once it is full. -/
def ends (m : Memory) (length : Nat) : Option (Float × Float) :=
  if m.window.length < length then none
  else
    match m.window.head?, m.window.getLast? with
    | some oldest, some newest => some (oldest, newest)
    | _, _ => none

/-- Takes in the best energy of a generation not seen yet, and counts it as stale
when it is no improvement on the lowest one. -/
def track (m : Memory) (generation : Nat) (best : Float) : Memory :=
  if m.lastGeneration = some generation then m
  else
    match m.lowest with
    | some lowest =>
      if lowest ≤ best then
        { m with lastGeneration := some generation, stale := m.stale + 1 }
      else { m with lastGeneration := some generation, lowest := some best, stale := 0 }
    | none => { m with lastGeneration := some generation, lowest := some best, stale := 0 }

end Memory

namespace Test

variable {α : Type} [Scalar α]

/-- The number of generations a test of change looks back; at least one. -/
def lookBack (generations : Nat) : Nat := max generations 1

/-- The largest distance of a coordinate from that of the best point. -/
def pointSpread (s : State α) : α :=
  (s.population.rows.flatMap fun row =>
    List.zipWith (fun a b => Scalar.abs (a - b)) row s.bestSolution).foldl
    Scalar.larger Scalar.zero

/-- The largest distance of an energy from the best one. -/
def energySpread (s : State α) : Float :=
  (s.energies.map fun e => (e - s.bestEnergy).abs).foldl Double.larger 0.0

/-- The answer of a test on a state, and what it remembers afterwards. -/
def look (s : State α) (m : Memory) : Test → Bool × Memory
  | .maxGenerations n => (n ≤ s.generation, m)
  | .maxEvaluations n => (n ≤ s.evaluations, m)
  | .valueToReach target => (s.bestEnergy ≤ target, m)
  | .change tolerance generations =>
    let length := lookBack generations + 1
    let m := m.observe length s.generation s.bestEnergy
    match m.ends length with
    | some (oldest, newest) => ((oldest - newest).abs ≤ tolerance, m)
    | none => (false, m)
  | .relativeChange tolerance generations =>
    let length := lookBack generations + 1
    let m := m.observe length s.generation s.bestEnergy
    match m.ends length with
    | some (oldest, newest) =>
      ((oldest - newest).abs ≤ tolerance * Double.larger newest.abs Double.smallestNormal, m)
    | none => (false, m)
  | .collapse xtol ftol =>
    (!s.population.rows.isEmpty && Double.isFinite s.bestEnergy &&
      (Scalar.toFloat (pointSpread s) ≤ xtol && energySpread s ≤ ftol), m)
  | .energyDeviation tol atol =>
    match Energy.mean s.energies with
    | some mean => (Energy.deviation s.energies ≤ atol + tol * mean.abs, m)
    | none => (false, m)
  | .stagnation generations =>
    let m := m.track s.generation s.bestEnergy
    (generations ≤ m.stale, m)
  | .never => (false, m)

/-- The fault of a look, if it has one: the window of a test of change is one entry longer
than the generations it looks back, and its length is counted in 64 bits. -/
def fault? : Test → Option Fault
  | .change _ generations | .relativeChange _ generations =>
    if lookBack generations + 1 < UInt64.size then none else some .overflow
  | _ => none

/-- Why a run stopped, when this test stopped it. -/
def reason : Test → String
  | .maxGenerations n => s!"Maximum generations reached: {n}"
  | .maxEvaluations n => s!"Maximum evaluations reached: {n}"
  | .valueToReach target => "Value to reach " ++ scientific 6 target ++ " attained"
  | .change tolerance generations =>
    "Best energy changed by <= " ++ scientific 3 tolerance ++
      s!" over {lookBack generations} generations"
  | .relativeChange tolerance generations =>
    "Best energy changed by <= " ++ scientific 3 tolerance ++
      s!" (relative) over {lookBack generations} generations"
  | .collapse xtol ftol =>
    "Population within xtol=" ++ scientific 3 xtol ++ ", ftol=" ++ scientific 3 ftol ++
      " of the best"
  | .energyDeviation tol atol =>
    "Converged: std(pop_f) <= " ++ scientific 3 atol ++ " + " ++ scientific 3 tol ++
      " * |mean(pop_f)|"
  | .stagnation generations => s!"No improvement for {generations} generations"
  | .never => "never"

end Test

/-! ## Trees -/

/-- A termination criterion as it is written down. -/
inductive Criterion where
  /-- a single test -/
  | test (t : Test)
  /-- at least one of the members -/
  | any (members : List Criterion)
  /-- every one of the members, of which there is at least one -/
  | all (members : List Criterion)
  deriving Repr

namespace Criterion

/-- The criterion of a run about which nothing is said: the energies deviate from
their mean by at most a hundredth of it. -/
def standard : Criterion := .test (.energyDeviation 0.01 0.0)

end Criterion

/-- A termination criterion while a run goes on. -/
inductive Watch where
  /-- a test with its memory -/
  | test (t : Test) (m : Memory)
  /-- at least one of the members; the one that fired last -/
  | any (members : List Watch) (fired : Option Nat)
  /-- every one of the members, of which there is at least one -/
  | all (members : List Watch)
  deriving Repr

namespace Watch

mutual

/-- The watch of a criterion at the start of a run. -/
def ofCriterion : Criterion → Watch
  | .test t => .test t .blank
  | .any members => .any (ofCriteria members) none
  | .all members => .all (ofCriteria members)

/-- The watches of a list of criteria. -/
def ofCriteria : List Criterion → List Watch
  | [] => []
  | c :: cs => ofCriterion c :: ofCriteria cs

end

/-! ## Asking -/

section

variable {α : Type} [Scalar α]

mutual

/-- Whether the run should stop in the given state, and the watch afterwards. -/
def ask (s : State α) : Watch → Bool × Watch
  | .test t m =>
    let (answer, m) := t.look s m
    (answer, .test t m)
  | .any members _ =>
    let (fired, members) := askAny s 0 members
    (fired.isSome, .any members fired)
  | .all members =>
    let (answer, asked) := askAll s members
    (!members.isEmpty && answer, .all asked)

/-- Asks members left to right up to the first that fires; its place is counted
from `i`. -/
def askAny (s : State α) (i : Nat) : List Watch → Option Nat × List Watch
  | [] => (none, [])
  | w :: ws =>
    let (answer, w) := ask s w
    if answer then (some i, w :: ws)
    else
      let (fired, ws) := askAny s (i + 1) ws
      (fired, w :: ws)

/-- Asks members left to right up to the first that does not fire. -/
def askAll (s : State α) : List Watch → Bool × List Watch
  | [] => (true, [])
  | w :: ws =>
    let (answer, w) := ask s w
    if answer then
      let (answer, ws) := askAll s ws
      (answer, w :: ws)
    else (false, w :: ws)

end

mutual

/-- The fault met when the watch is asked, if there is one. -/
def fault? (s : State α) : Watch → Option Fault
  | .test t _ => t.fault?
  | .any members _ => faultAny? s members
  | .all members => faultAll? s members

/-- The fault met when members are asked up to the first that fires. -/
def faultAny? (s : State α) : List Watch → Option Fault
  | [] => none
  | w :: ws => (fault? s w).or (if (ask s w).1 then none else faultAny? s ws)

/-- The fault met when members are asked up to the first that does not fire. -/
def faultAll? (s : State α) : List Watch → Option Fault
  | [] => none
  | w :: ws => (fault? s w).or (if (ask s w).1 then faultAll? s ws else none)

end

/-- The answer of a watch and the watch afterwards, unless asking it meets a fault. -/
def answer (s : State α) (w : Watch) : Except Fault (Bool × Watch) :=
  match w.fault? s with
  | some f => .error f
  | none => .ok (w.ask s)

end

/-! ## Reasons -/

mutual

/-- Why the run stopped, when the watch was asked last: an `any` node speaks
through the member that fired, an `all` node through all its members. -/
def reason : Watch → String
  | .test t _ => t.reason
  | .any members fired =>
    match fired with
    | some i => reasonAt i members
    | none => "none of the criteria fired"
  | .all members => " and ".intercalate (reasons members)

/-- The reason of the member at a place. -/
def reasonAt : Nat → List Watch → String
  | _, [] => "none of the criteria fired"
  | 0, w :: _ => reason w
  | i + 1, _ :: ws => reasonAt i ws

/-- The reasons of all members. -/
def reasons : List Watch → List String
  | [] => []
  | w :: ws => reason w :: reasons ws

end

/-! ## Forgetting -/

mutual

/-- The watch with all memories blank and no member fired. -/
def reset : Watch → Watch
  | .test t _ => .test t .blank
  | .any members _ => .any (resets members) none
  | .all members => .all (resets members)

/-- A list of watches, reset. -/
def resets : List Watch → List Watch
  | [] => []
  | w :: ws => reset w :: resets ws

end

end Watch

end BoxSearch

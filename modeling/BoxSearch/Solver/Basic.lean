import BoxSearch.Cancellation
import BoxSearch.Constraint.Basic
import BoxSearch.Criterion.Basic
import BoxSearch.EvaluationMap

/-!
# What all solvers share

A solver is stepped: one step is one generation.  An operation on a solver
answers with a `Reply`: its result, the solver afterwards, and the events that
happened.  An operation that evaluates the objective also hands on the number of
evaluations made so far, failed ones included, since an objective may depend on
it.

* `Limits` are the hard caps of a run, asked after its criterion;
* `Batch.evaluate` sends points through the map of a solver and adds the
  penalties, so a map that loses or invents values is caught in one place;
* `Batch.records` numbers the evaluations of a batch.
-/

namespace BoxSearch

/-! ## Replies -/

/-- The answer of an operation on a solver `σ`. -/
structure Reply (σ α ρ : Type) where
  /-- what came of it -/
  result : Except SolverError ρ
  /-- the solver afterwards -/
  after : σ
  /-- what happened, oldest first -/
  events : List (Event α)

namespace Reply

variable {σ τ α ρ : Type}

/-- A refusal that changes nothing and reports nothing. -/
def refuse (s : σ) (e : SolverError) : Reply σ α ρ := ⟨.error e, s, []⟩

/-- A success. -/
def done (s : σ) (r : ρ) (events : List (Event α)) : Reply σ α ρ := ⟨.ok r, s, events⟩

/-- The reply of a part of a solver as one of the whole. -/
def lift (f : σ → τ) (r : Reply σ α ρ) : Reply τ α ρ := ⟨r.result, f r.after, r.events⟩

/-- The reply with earlier events put before its own. -/
def preceded (r : Reply σ α ρ) (events : List (Event α)) : Reply σ α ρ :=
  { r with events := events ++ r.events }

end Reply

/-! ## Limits -/

/-- Hard caps of a run. -/
structure Limits where
  /-- the largest number of generations -/
  generations : Option Nat
  /-- the number of evaluations from which on no generation is begun -/
  evaluations : Option Nat
  deriving DecidableEq, Repr

namespace Limits

/-- No caps. -/
def none : Limits := ⟨.none, .none⟩

/-- Why a run has to stop now, if it has to: the generations come first. -/
def reason? {α : Type} (l : Limits) (s : State α) : Option String :=
  let reached (what : String) (limit : Option Nat) (spent : Nat) : Option String :=
    match limit with
    | some n => if n ≤ spent then some s!"Maximum {what} reached: {n}" else .none
    | .none => .none
  (reached "generations" l.generations s.generation).or
    (reached "evaluations" l.evaluations s.evaluations)

end Limits

/-! ## Batches -/

namespace Batch

variable {α : Type}

/-- The penalised energies of a batch, and the number of evaluations after it.
`map` is the name under which a map with the wrong number of answers is reported. -/
def evaluate (m : EvaluationMap α) (map : String) (c : Constraints α) (o : Objective α)
    (calls : Nat) (xs : List (Point α)) : Except SolverError (List Float) × Nat :=
  match m.evaluate o calls xs with
  | (.error e, calls) => (.error e, calls)
  | (.ok raw, calls) =>
    if raw.length = xs.length then
      match c.applyPenalties (xs.zip raw) with
      | .error f => (.error (.fault f), calls)
      | .ok es => (.ok es, calls)
    else
      let text := s!"{map} returned {raw.length} values for {xs.length} vectors"
      (.error (.evaluation (min raw.length xs.length) text), calls)

/-- The records of a batch whose first evaluation is number `first`. -/
def records (first : Nat) (xs : List (Point α)) (es : List Float) : List (Event α) :=
  (xs.zip es).mapIdx fun k xe => .evaluated ⟨first + k, xe.1, xe.2⟩

end Batch

/-! ## Stopping -/

/-- Asks a criterion, if there is one; the answer is the reason to stop. -/
def askWatch {α : Type} [Scalar α] (s : State α) (watch : Option Watch) :
    Except SolverError (Option String × Option Watch) :=
  match watch with
  | none => .ok (none, none)
  | some w =>
    match w.answer s with
    | .error f => .error (.fault f)
    | .ok (stop, w) => .ok (if stop then some w.reason else none, some w)

end BoxSearch

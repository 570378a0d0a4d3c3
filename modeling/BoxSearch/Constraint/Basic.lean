import BoxSearch.Constraint.Penalty
import BoxSearch.Constraint.Repair

/-!
# Constraints of a run

A run has at most one repair and at most one penalty.  The repair acts on points,
the penalty on energies, so a run may search over other coordinates than the
doubles its energies are.
-/

namespace BoxSearch

/-- Repair and penalty of a run. -/
structure Constraints (α : Type) where
  /-- moves a point into the feasible set -/
  repair : Option (Point α → Point α)
  /-- the penalised energy of a point -/
  penalty : Option (Point α → Float → Except Fault Float)

namespace Constraints

variable {α : Type}

/-- No constraints. -/
def none : Constraints α := ⟨.none, .none⟩

/-- With a repair. -/
def withRepair [Scalar α] (c : Constraints α) (r : Repair α) : Constraints α :=
  { c with repair := some r.apply }

/-- With a penalty. -/
def withPenalty (c : Constraints Float) (p : Penalty Float) : Constraints Float :=
  { c with penalty := some p.penalize }

/-- The repaired point; the point itself without a repair. -/
def applyRepair (c : Constraints α) (x : Point α) : Point α :=
  match c.repair with
  | some r => r x
  | .none => x

/-- The penalised energy; the energy itself without a penalty. -/
def applyPenalty (c : Constraints α) (x : Point α) (f : Float) : Except Fault Float :=
  match c.penalty with
  | some p => p x f
  | .none => .ok f

/-- The penalised energies of a batch, in order. -/
def applyPenalties (c : Constraints α) : List (Point α × Float) → Except Fault (List Float)
  | [] => .ok []
  | (x, f) :: rest =>
    match c.applyPenalty x f with
    | .error e => .error e
    | .ok f => (c.applyPenalties rest).map (f :: ·)

/-- The text that describes constraints. -/
def describe (c : Constraints α) : String :=
  s!"Constraints \x7b repair: {c.repair.isSome}, penalty: {c.penalty.isSome} \x7d"

end Constraints

end BoxSearch

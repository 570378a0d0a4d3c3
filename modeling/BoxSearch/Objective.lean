import BoxSearch.Error
import BoxSearch.Scalar

/-!
# Objectives

An objective gives the energy of a point, or fails on it.  It may fail on one
call and not on another, so an evaluation is told how many evaluations went
before it; an objective is `Pure` when its answer does not depend on that number.

A failure is either an answer of the objective (`refused`) or a breakdown in the
middle of the computation (`crashed`), with a text if there is one.
-/

namespace BoxSearch

/-- How an evaluation fails. -/
inductive Breakdown where
  /-- the objective has no value there, and says why -/
  | refused (text : String)
  /-- the computation broke down -/
  | crashed (text : Option String)
  deriving DecidableEq, Repr

namespace Breakdown

/-- The wording of a failed evaluation. -/
def message : Breakdown → String
  | .refused text => text
  | .crashed (some text) => "objective panicked: " ++ text
  | .crashed none => "objective panicked"

/-- A fault in the middle of an evaluation is a breakdown. -/
def ofFault (f : Fault) : Breakdown := .crashed (some f.message)

end Breakdown

/-- An objective to be minimised. -/
structure Objective (α : Type) where
  /-- the energy of a point, after the given number of evaluations -/
  eval : Nat → Point α → Except Breakdown Float
  /-- the dimension of its points, when it is known -/
  dimension : Option Nat

namespace Objective

variable {α : Type}

/-- The objective that computes a function. -/
def ofFunction (f : Point α → Float) : Objective α := ⟨fun _ x => .ok (f x), none⟩

/-- The objective that computes a function which may fail. -/
def ofFallible (f : Point α → Except Breakdown Float) : Objective α := ⟨fun _ x => f x, none⟩

/-- The objective with a declared dimension. -/
def withDimension (o : Objective α) (dim : Nat) : Objective α := { o with dimension := some dim }

/-- The objective with the opposite sign: to minimise it is to maximise the one
given. -/
def maximize (o : Objective α) : Objective α :=
  { o with eval := fun n x => (o.eval n x).map fun v => -v }

/-- The answers of a pure objective depend on the point alone. -/
def Pure (o : Objective α) : Prop := ∀ m n x, o.eval m x = o.eval n x

/-- Refuses an objective of another dimension than the problem's. -/
def checkDimension (o : Objective α) (dim : Nat) : Except SolverError Unit :=
  match o.dimension with
  | some d => if d = dim then .ok () else .error (.dimensionMismatch "objective" dim d)
  | none => .ok ()

/-- Evaluates the vector at place `index` of a batch. -/
def evaluateAt (o : Objective α) (calls index : Nat) (x : Point α) : Except SolverError Float :=
  match o.eval calls x with
  | .ok v => .ok v
  | .error b => .error (.evaluation index b.message)

end Objective

end BoxSearch

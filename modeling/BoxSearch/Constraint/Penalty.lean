import BoxSearch.Error
import BoxSearch.State

/-!
# Penalties

A penalty adds to the energy of an infeasible point the square of each violation
times a weight, and returns the energy of a feasible point as it is.  The
constraints behind a penalty are

* an inequality `g x ≤ 0`,
* an equality `h x = 0`,
* a system `lower ≤ A x ≤ upper`, row by row,
* a list of penalties, applied one after the other.

A constraint function may have no value at a point, because it reads a coordinate
the point does not have; then the penalised energy has none either.

The rows of a linear system keep their ends and their weight with them, so a
system stays aligned however it is put together.
-/

namespace BoxSearch

/-- A function of a point that may read a missing coordinate. -/
abbrev ConstraintFn (α : Type) := Point α → Except Fault α

/-! ## Linear systems -/

/-- One row of a linear system. -/
structure LinearRow (α : Type) where
  /-- the coefficients -/
  coefficients : Point α
  /-- the least value -/
  lower : α
  /-- the largest value -/
  upper : α
  /-- the weight of a violation -/
  weight : α
  deriving Repr

/-- A linear system. -/
structure LinearSystem (α : Type) where
  /-- the number of coefficients of a row -/
  width : Nat
  /-- the rows -/
  rows : List (LinearRow α)
  deriving Repr

namespace LinearSystem

variable {α : Type}

/-- The system with the given matrix and ends, every row with the same weight. -/
def make (matrix : Population α) (lower upper : List α) (weight : α) :
    Except SolverError (LinearSystem α) :=
  if lower.length ≠ matrix.size then
    .error (.dimensionMismatch "linear constraint lower bound" matrix.size lower.length)
  else if upper.length ≠ matrix.size then
    .error (.dimensionMismatch "linear constraint upper bound" matrix.size upper.length)
  else
    .ok ⟨matrix.width, List.zipWith (fun row (e : α × α) => ⟨row, e.1, e.2, weight⟩)
      matrix.rows (lower.zip upper)⟩

/-- Both systems as one; their rows must have the same number of coefficients. -/
def stack (s t : LinearSystem α) : Except SolverError (LinearSystem α) :=
  if t.width = s.width then .ok { s with rows := s.rows ++ t.rows }
  else .error (.dimensionMismatch "linear constraint matrix" s.width t.width)

end LinearSystem

namespace LinearRow

variable {α : Type} [Scalar α]

/-- The value of the row at a point. -/
def value (r : LinearRow α) (x : Point α) : α :=
  Scalar.sum (List.zipWith (· * ·) r.coefficients x)

/-- `p` with the weighted squared violations of the row added. -/
def addTo (r : LinearRow α) (x : Point α) (p : α) : α :=
  let v := r.value x
  let p := if v < r.lower then p + r.weight * (r.lower - v) * (r.lower - v) else p
  if r.upper < v then p + r.weight * (v - r.upper) * (v - r.upper) else p

end LinearRow

namespace LinearSystem

variable {α : Type} [Scalar α]

/-- The weighted squared violations of all rows. -/
def violation (s : LinearSystem α) (x : Point α) : α :=
  s.rows.foldl (fun p r => r.addTo x p) Scalar.zero

/-- The penalised energy. -/
def penalize (s : LinearSystem α) (x : Point α) (f : α) : α :=
  let p := s.violation x
  if Scalar.zero < p then f + p else f

end LinearSystem

/-! ## Penalties -/

/-- A rule that adds to the energy of infeasible points. -/
inductive Penalty (α : Type) where
  /-- for `g x > 0` -/
  | inequality (g : ConstraintFn α) (weight : α)
  /-- for `h x ≠ 0` -/
  | equality (h : ConstraintFn α) (weight : α)
  /-- for rows outside their ends -/
  | linear (system : LinearSystem α)
  /-- one penalty after the other -/
  | set (members : List (Penalty α))

namespace Penalty

variable {α : Type} [Scalar α]

mutual

/-- The penalised energy of a point. -/
def penalize : Penalty α → Point α → α → Except Fault α
  | .inequality g weight, x, f =>
    (g x).map fun v => if Scalar.zero < v then f + weight * v * v else f
  | .equality h weight, x, f =>
    (h x).map fun v => if v == Scalar.zero then f else f + weight * v * v
  | .linear system, x, f => .ok (system.penalize x f)
  | .set members, x, f => penalizeAll members x f

/-- The energy after one penalty after the other. -/
def penalizeAll : List (Penalty α) → Point α → α → Except Fault α
  | [], _, f => .ok f
  | p :: members, x, f =>
    match penalize p x f with
    | .error e => .error e
    | .ok f => penalizeAll members x f

end

end Penalty

/-! ## Several constraints of one function -/

/-- A list-valued function whose components must lie between given ends. -/
structure VectorConstraint (α : Type) where
  /-- the function -/
  value : Point α → Except Fault (List α)
  /-- the least value of each component -/
  lower : List α
  /-- the largest value of each component -/
  upper : List α

namespace VectorConstraint

variable {α : Type} [Scalar α]

/-- The component at a place of the function's value. -/
def component (c : VectorConstraint α) (i : Nat) (x : Point α) : Except Fault α := do
  entryAt (← c.value x) i

/-- Ends closer than this are taken to coincide. -/
def closeness : α := Scalar.ofNat 1 / Scalar.ofNat (Nat.pow 10 18)

/-- The penalties of one component: an equality when its ends coincide, and an
inequality for each end otherwise. -/
def componentPenalties (c : VectorConstraint α) (inequality equality : α) (i : Nat)
    (ends : α × α) : List (Penalty α) :=
  let (l, u) := ends
  if Scalar.abs (u - l) < closeness then
    [.equality (fun x => (c.component i x).map fun v => v - l) equality]
  else
    [.inequality (fun x => (c.component i x).map fun v => v - u) inequality,
      .inequality (fun x => (c.component i x).map fun v => l - v) inequality]

/-- The penalties of all components that have both ends. -/
def penalties (c : VectorConstraint α) (inequality equality : α) : List (Penalty α) :=
  ((c.lower.zip c.upper).mapIdx (c.componentPenalties inequality equality)).flatten

end VectorConstraint

end BoxSearch

import BoxSearch.Box
import BoxSearch.Random.Shuffle
import BoxSearch.Random.Stream
import BoxSearch.State

/-!
# Drawing populations

Three ways of placing points in a box.

* `Sampling.uniform` draws every free coordinate on its own;
* `Sampling.latinHypercube` cuts every free dimension into as many strata as
  there are members, puts one sample into each, and shuffles them dimension by
  dimension;
* `Sampling.gridCentres` takes the centres of the cells of a regular grid, the
  last dimension running fastest.

A fixed dimension has one coordinate only.  It costs no randomness, and along it
a grid has one cell.
-/

namespace BoxSearch

namespace Sampling

variable {α γ : Type} [Scalar α] [WordSource γ]

/-- The coordinate at the fraction `u` of an interval. -/
def along (s : Interval α) (u : α) : α := s.lower + u * (s.upper - s.lower)

/-! ## Uniform draws -/

/-- A uniform point: one draw for each free side, in order. -/
def uniformPoint : List (Interval α) → γ → Point α × γ
  | [], g => ([], g)
  | s :: sides, g =>
    if s.isFree then
      let (u, g) := WordSource.uniform g
      let (x, g) := uniformPoint sides g
      (along s u :: x, g)
    else
      let (x, g) := uniformPoint sides g
      (s.lower :: x, g)

/-- `count` uniform points, one after the other. -/
def uniformPoints (sides : List (Interval α)) : Nat → γ → List (Point α) × γ
  | 0, g => ([], g)
  | count + 1, g =>
    let (x, g) := uniformPoint sides g
    let (xs, g) := uniformPoints sides count g
    (x :: xs, g)

/-- A population of `count` uniform points. -/
def uniform (count : Nat) (box : Box α) (g : γ) : Population α × γ :=
  let (rows, g) := uniformPoints box.sides count g
  (⟨box.dim, rows⟩, g)

/-! ## Latin hypercubes -/

/-- The fractions of the strata: stratum `k` of `count` holds the `k`-th draw. -/
def strata (count : Nat) (us : List α) : List α :=
  us.mapIdx fun k u => (Scalar.ofNat k + u) / Scalar.ofNat count

/-- The coordinates of all members along one side. -/
def stratifiedColumn (count : Nat) (s : Interval α) (g : γ) : List α × γ :=
  if s.isFree then
    let (us, g) := WordSource.uniforms count g
    let (us, g) := Shuffle.shuffle (strata count us) g
    (us.map (along s), g)
  else (List.replicate count s.lower, g)

/-- The columns of all sides, in order. -/
def stratifiedColumns (count : Nat) : List (Interval α) → γ → List (List α) × γ
  | [], g => ([], g)
  | s :: sides, g =>
    let (column, g) := stratifiedColumn count s g
    let (columns, g) := stratifiedColumns count sides g
    (column :: columns, g)

/-- The rows of a table given by its columns. -/
def rowsOfColumns : Nat → List (List α) → List (List α)
  | 0, _ => []
  | count + 1, columns =>
    columns.map (·.headD Scalar.zero) :: rowsOfColumns count (columns.map List.tail)

/-- A population with one member in each stratum of each free dimension. -/
def latinHypercube (count : Nat) (box : Box α) (g : γ) : Population α × γ :=
  let (columns, g) := stratifiedColumns count box.sides g
  (⟨box.dim, rowsOfColumns count columns⟩, g)

/-! ## Grids -/

/-- The number of cells along each side: one entry serves for all sides, and a
fixed side has one cell. -/
def gridBins (bins : List Nat) (sides : List (Interval α)) : Except SolverError (List Nat) :=
  let spread : Except SolverError (List Nat) :=
    match bins with
    | [b] => .ok (List.replicate sides.length b)
    | _ =>
      if bins.length = sides.length then .ok bins
      else .error (.dimensionMismatch "grid bins" sides.length bins.length)
  match spread with
  | .error e => .error e
  | .ok bins =>
    if bins.contains 0 then .error (.configuration .zeroBins)
    else .ok (List.zipWith (fun b (s : Interval α) => if s.isFree then b else 1) bins sides)

/-- How many cells bins along each side make together. -/
def cellCount (bins : List Nat) : Nat := bins.foldr (· * ·) 1

/-- The cell of row `k` along each side: the digits of `k` in the mixed radix of
the bins, the last side the lowest place. -/
def gridCell : List Nat → Nat → List Nat
  | [], _ => []
  | b :: bins, k => k / cellCount bins % b :: gridCell bins k

/-- The centre of a cell along a side. -/
def gridCoordinate (s : Interval α) (bins cell : Nat) : α :=
  if s.isFree then
    s.lower + (Scalar.ofNat cell + Scalar.half) * s.span / Scalar.ofNat bins
  else s.lower

/-- The centres of all cells. -/
def gridCentres (bins : List Nat) (box : Box α) : Except SolverError (Population α) :=
  match gridBins bins box.sides with
  | .error e => .error e
  | .ok bins =>
    match Size.count (cellCount bins) with
    | .error e => .error e
    | .ok total =>
      match Size.checkTable total box.dim with
      | .error e => .error e
      | .ok _ =>
        .ok ⟨box.dim, (List.range total).map fun k =>
          List.zipWith (fun (s : Interval α) (bc : Nat × Nat) => gridCoordinate s bc.1 bc.2)
            box.sides (bins.zip (gridCell bins k))⟩

end Sampling

/-! ## Choices -/

/-- How the first population of a run is drawn. -/
inductive Init where
  /-- one member in each stratum -/
  | latinHypercube
  /-- every coordinate on its own -/
  | random
  deriving DecidableEq, Repr

namespace Init

/-- The name shown in logs. -/
def display : Init → String
  | .latinHypercube => "LatinHypercube"
  | .random => "Random"

/-- Draws a population. -/
def draw {α γ : Type} [Scalar α] [WordSource γ] (init : Init) (count : Nat) (box : Box α)
    (g : γ) : Population α × γ :=
  match init with
  | .latinHypercube => Sampling.latinHypercube count box g
  | .random => Sampling.uniform count box g

end Init

/-- Where the members of an ensemble start. -/
inductive StartPoints where
  /-- at the centres of a grid with the given numbers of cells -/
  | grid (bins : List Nat)
  /-- at uniform points -/
  | scattershot (count : Nat)
  deriving DecidableEq, Repr

namespace StartPoints

/-- The text shown in logs. -/
def display : StartPoints → String
  | .grid bins => "Grid \x7b bins: [" ++ ", ".intercalate (bins.map toString) ++ "] \x7d"
  | .scattershot count => "Scattershot \x7b npts: " ++ toString count ++ " \x7d"

/-- The start points, one row each. -/
def generate {α γ : Type} [Scalar α] [WordSource γ] (starts : StartPoints) (box : Box α)
    (g : γ) : Except SolverError (Population α) :=
  match starts with
  | .grid bins => Sampling.gridCentres bins box
  | .scattershot count =>
    match Size.checkTable count box.dim with
    | .error e => .error e
    | .ok _ => .ok (Sampling.uniform count box g).1

end StartPoints

end BoxSearch

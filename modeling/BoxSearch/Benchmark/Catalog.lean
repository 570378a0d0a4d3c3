import BoxSearch.Benchmark.Functions
import BoxSearch.Constraint.Penalty
import BoxSearch.Objective

/-!
# The catalog of benchmarks

Every benchmark of the library with what is known about it: the box in which it is
usually searched, its lowest points, and the constraints that go with it.  A
catalog box with one side serves for every dimension, and one with more sides is
repeated or cut to the dimension that is asked for.
-/

namespace BoxSearch

/-- A benchmark and what is known about it. -/
structure Benchmark where
  /-- the name under which it is found -/
  name : String
  /-- a few words on its shape -/
  description : String
  /-- whether it has more than one local minimum -/
  multimodal : Bool
  /-- the dimensions in which it is usually searched -/
  dimensions : List Nat
  /-- the box in which it is usually searched -/
  sides : List (Float × Float)
  /-- its lowest points, each with the value there -/
  minima : List (Point Float × Float)
  /-- the constraints that go with it; a feasible point has values of at most 0 -/
  constraints : List (ConstraintFn Float)
  /-- the function -/
  value : ConstraintFn Float

namespace Benchmark

/-- A function of any number of variables. -/
def everywhere (f : Point Float → Float) : ConstraintFn Float := fun x => .ok (f x)

/-- All benchmarks. -/
def all : List Benchmark := [
  { name := "sphere", description := "Convex bowl", multimodal := false
    dimensions := [2, 5, 10], sides := [(-5.0, 5.0)], minima := [([0.0, 0.0], 0.0)]
    constraints := [], value := everywhere sphere },
  { name := "quadratic", description := "Convex bowl (alias of sphere)", multimodal := false
    dimensions := [2], sides := [(-5.0, 5.0)], minima := [([0.0, 0.0], 0.0)]
    constraints := [], value := everywhere quadratic },
  { name := "rosenbrock", description := "Curved narrow valley", multimodal := false
    dimensions := [2, 5], sides := [(-2.048, 2.048)], minima := [([1.0, 1.0], 0.0)]
    constraints := [], value := everywhere rosenbrock },
  { name := "rotated_hyper_ellipsoid", description := "Ill-conditioned convex bowl"
    multimodal := false
    dimensions := [2, 5], sides := [(-65.536, 65.536)], minima := [([0.0, 0.0], 0.0)]
    constraints := [], value := everywhere rotatedHyperEllipsoid },
  { name := "zakharov", description := "Plate-shaped", multimodal := false
    dimensions := [2, 5], sides := [(-5.0, 10.0)], minima := [([0.0, 0.0], 0.0)]
    constraints := [], value := everywhere zakharov },
  { name := "booth", description := "Plate-shaped 2D", multimodal := false
    dimensions := [2], sides := [(-10.0, 10.0), (-10.0, 10.0)], minima := [([1.0, 3.0], 0.0)]
    constraints := [], value := booth },
  { name := "ackley", description := "Nearly flat outer region, deep central hole"
    multimodal := true
    dimensions := [2, 5, 10], sides := [(-32.768, 32.768)], minima := [([0.0, 0.0], 0.0)]
    constraints := [], value := everywhere ackley },
  { name := "rastrigin", description := "Regular lattice of local minima", multimodal := true
    dimensions := [2, 5], sides := [(-5.12, 5.12)], minima := [([0.0, 0.0], 0.0)]
    constraints := [], value := everywhere rastrigin },
  { name := "griewank", description := "Product of cosines", multimodal := true
    dimensions := [2, 5], sides := [(-600.0, 600.0)], minima := [([0.0, 0.0], 0.0)]
    constraints := [], value := everywhere griewank },
  { name := "himmelblau", description := "Four identical global minima", multimodal := true
    dimensions := [2], sides := [(-5.0, 5.0), (-5.0, 5.0)]
    minima := [([3.0, 2.0], 0.0), ([-2.805118, 3.131312], 0.0), ([-3.779310, -3.283186], 0.0),
      ([3.584428, -1.848126], 0.0)]
    constraints := [], value := himmelblau },
  { name := "six_hump_camel", description := "Six local minima, two global", multimodal := true
    dimensions := [2], sides := [(-3.0, 3.0), (-2.0, 2.0)]
    minima := [([0.0898, -0.7126], -1.0316), ([-0.0898, 0.7126], -1.0316)]
    constraints := [], value := sixHumpCamel },
  { name := "chebyshev8", description := "Storn & Price polynomial fitting (T8)"
    multimodal := true
    dimensions := [9], sides := List.replicate 9 (-100.0, 100.0)
    minima := [(chebyshevCoefficients, 0.0)]
    constraints := [], value := everywhere chebyshevCost },
  { name := "rosenbrock_disk", description := "Rosenbrock restricted to x^2 + y^2 <= 2"
    multimodal := false
    dimensions := [2], sides := [(-1.5, 1.5), (-1.5, 1.5)], minima := [([1.0, 1.0], 0.0)]
    constraints := [diskConstraint], value := rosenbrockPair },
  { name := "binh_korn", description := "Binh and Korn first objective with two constraints"
    multimodal := false
    dimensions := [2], sides := [(0.0, 5.0), (0.0, 3.0)], minima := [([0.0, 0.0], 0.0)]
    constraints := [binhKornInside, binhKornOutside], value := binhKorn }]

/-- The constraint functions that can be named on their own. -/
def namedConstraints : List (String × ConstraintFn Float) := [
  ("rosenbrock_disk_constraint", diskConstraint),
  ("binh_korn_constraint1", binhKornInside),
  ("binh_korn_constraint2", binhKornOutside)]

/-- The benchmark of a name. -/
def find? (name : String) : Option Benchmark := all.find? (·.name == name)

/-- The names of all benchmarks, in alphabetical order. -/
def names : List String := (all.map (·.name)).mergeSort

/-- The function of a name: a benchmark, or a constraint. -/
def function? (name : String) : Option (ConstraintFn Float) :=
  ((find? name).map (·.value)).or (namedConstraints.lookup name)

/-- The objective that a benchmark is. -/
def toObjective (b : Benchmark) : Objective Float :=
  .ofFallible fun x => (b.value x).mapError Breakdown.ofFault

/-- The catalog box of a name brought to a dimension, and the given range in every
dimension when there is no such name. -/
def sidesFor (name : String) (dim : Nat) (range : Float × Float) :
    Except SolverError (List (Float × Float)) := do
  Size.checkList 16 dim
  match (find? name).map (·.sides) with
  | some (side :: sides) =>
    .ok ((List.range dim).map fun i => (side :: sides).getD (i % (sides.length + 1)) side)
  | _ => .ok (List.replicate dim range)

end Benchmark

end BoxSearch

import BoxSearch.Benchmark.Catalog
import BoxSearch.Benchmark.Functions
import BoxSearch.Box
import BoxSearch.Cancellation
import BoxSearch.CommandLine.Options
import BoxSearch.CommandLine.Run
import BoxSearch.Config.Basic
import BoxSearch.Config.Document
import BoxSearch.Constraint.Basic
import BoxSearch.Constraint.Penalty
import BoxSearch.Constraint.Repair
import BoxSearch.Criterion.Basic
import BoxSearch.Decimal.Digits
import BoxSearch.Decimal.Format
import BoxSearch.Double
import BoxSearch.Energy
import BoxSearch.Environment
import BoxSearch.Error
import BoxSearch.EvaluationMap
import BoxSearch.Event
import BoxSearch.Files
import BoxSearch.Json.Basic
import BoxSearch.Json.Numeral
import BoxSearch.Json.Reader
import BoxSearch.Json.Record
import BoxSearch.Json.Token
import BoxSearch.Json.Writer
import BoxSearch.Main
import BoxSearch.Monitor
import BoxSearch.Objective
import BoxSearch.Proofs.Compass.Growth
import BoxSearch.Proofs.Compass.Step
import BoxSearch.Proofs.Criterion.Asking
import BoxSearch.Proofs.EvaluationMap.Faithful
import BoxSearch.Proofs.Evolution.Growth
import BoxSearch.Proofs.Evolution.Step
import BoxSearch.Random.Shuffle
import BoxSearch.Random.Source
import BoxSearch.Random.Stream
import BoxSearch.Sampling
import BoxSearch.Scalar
import BoxSearch.Session
import BoxSearch.Solver.Basic
import BoxSearch.Solver.Compass
import BoxSearch.Solver.Ensemble
import BoxSearch.Solver.Evolution
import BoxSearch.Solver.Member
import BoxSearch.Solver.Solve
import BoxSearch.Solver.Tree
import BoxSearch.State
import BoxSearch.Strategy.Crossover
import BoxSearch.Strategy.Mutation
import BoxSearch.Strategy.Trial
import BoxSearch.Strategy.Variant
import BoxSearch.Text.Blank
import BoxSearch.Text.LowerCase
import BoxSearch.Proofs.Solver.Growth
import BoxSearch.Proofs.Solver.Retry
import BoxSearch.Proofs.Ensemble.Dispatch
import BoxSearch.Proofs.Ensemble.Step
import BoxSearch.Proofs.Solver.Restore
import BoxSearch.Proofs.Ensemble.Generation
import BoxSearch.Proofs.Ensemble.Retry
import BoxSearch.Proofs.Energy.Order
import BoxSearch.Proofs.Solver.Calls
import BoxSearch.Proofs.Solver.Marks
import BoxSearch.Proofs.Solver.Slices
import BoxSearch.Proofs.Solver.Steady
import BoxSearch.Proofs.Solver.Alone
import BoxSearch.Proofs.Evolution.Invariant
import BoxSearch.Proofs.Evolution.Selection
import BoxSearch.Proofs.Evolution.Coherence
import BoxSearch.Proofs.Evolution.BestKept
import BoxSearch.Proofs.Ensemble.Alone
import BoxSearch.Proofs.Ensemble.Members
import BoxSearch.Proofs.Solver.Records
import BoxSearch.Proofs.Session.Memory
import BoxSearch.Proofs.Evolution.Accounting
import BoxSearch.Proofs.Compass.Accounting
import BoxSearch.Proofs.Ensemble.Accounting
import BoxSearch.Proofs.Solver.Rejection
import BoxSearch.Proofs.Criterion.Memoryless
import BoxSearch.Proofs.Solver.Settings
import BoxSearch.Proofs.Ensemble.Agreement
import BoxSearch.Proofs.Solver.Replay
import BoxSearch.Proofs.Solver.Renewal
import BoxSearch.Proofs.Energy.Matching
import BoxSearch.Proofs.Criterion.Ordinal
import BoxSearch.Proofs.EvaluationMap.Matched
import BoxSearch.Proofs.Evolution.Rescaling
import BoxSearch.Proofs.Compass.Rescaling
import BoxSearch.Proofs.Solver.Rescaling
import BoxSearch.Proofs.Box.Holding
import BoxSearch.Proofs.Sampling.Table
import BoxSearch.Proofs.Strategy.Fitting
import BoxSearch.Proofs.Evolution.Inside
import BoxSearch.Proofs.Compass.Inside
import BoxSearch.Proofs.Solver.Inside
import BoxSearch.Proofs.EvaluationMap.Agreement
import BoxSearch.Proofs.Evolution.Unfailing
import BoxSearch.Proofs.Solver.Caps
import BoxSearch.Proofs.Box.Affine
import BoxSearch.Proofs.Sampling.Affine
import BoxSearch.Proofs.Strategy.Affine
import BoxSearch.Proofs.Criterion.Blind
import BoxSearch.Proofs.Evolution.Affine
import BoxSearch.Proofs.Solver.Bisimulation
import BoxSearch.Proofs.Solver.Affine
import BoxSearch.Proofs.Json.Numerals
import BoxSearch.Proofs.Json.Scanning
import BoxSearch.Proofs.Json.Reading
import BoxSearch.Proofs.Json.Values
import BoxSearch.Proofs.Config.Criteria
import BoxSearch.Proofs.Config.RoundTrip
import BoxSearch.Proofs.Criterion.Alternatives
import BoxSearch.Proofs.Random.Picking
import BoxSearch.Proofs.Strategy.Composition
import BoxSearch.Proofs.Evolution.Failing
import BoxSearch.Proofs.Config.Building
import BoxSearch.Proofs.Solver.Interleaving
import BoxSearch.Proofs.Solver.Requests
import BoxSearch.Proofs.Criterion.Account
import BoxSearch.Proofs.Criterion.Inquiry
import BoxSearch.Proofs.Criterion.Wording
import BoxSearch.Proofs.Criterion.Observations
import BoxSearch.Proofs.Criterion.Windows
import BoxSearch.Proofs.Criterion.Stagnation
import BoxSearch.Proofs.Criterion.Forgetting
import BoxSearch.Proofs.Energy.Distance
import BoxSearch.Proofs.Criterion.Collapse
import BoxSearch.Proofs.Solver.Committed
import BoxSearch.Proofs.Compass.BestKept
import BoxSearch.Proofs.Ensemble.BestPair
import BoxSearch.Proofs.Ensemble.Housed
import BoxSearch.Proofs.Solver.Course
import BoxSearch.Proofs.Compass.Mesh
import BoxSearch.Proofs.Compass.Halvings
import BoxSearch.Proofs.Compass.LocalOptimum
import BoxSearch.Proofs.Penalty.Violations
import BoxSearch.Proofs.Penalty.Stacking
import BoxSearch.Proofs.Penalty.Components
import BoxSearch.Proofs.Sampling.Grid
import BoxSearch.Proofs.Double.Value
import BoxSearch.Proofs.Double.Whole
import BoxSearch.Proofs.Repair.Rounding
import BoxSearch.Proofs.Repair.Commuting
import BoxSearch.Proofs.Evolution.Finished
import BoxSearch.Proofs.Solver.Integral
import BoxSearch.Proofs.Double.Rounding
import BoxSearch.Proofs.Double.Nearest
import BoxSearch.Proofs.Sampling.Strata
import BoxSearch.Proofs.Sampling.Inside
import BoxSearch.Proofs.Procedure
import BoxSearch.Proofs.Cancellation.Registry
import BoxSearch.Proofs.Solver.Setup
import BoxSearch.Proofs.Benchmark.Minima
import BoxSearch.Proofs.Strategy.CyclicRun
import BoxSearch.Proofs.Strategy.DrawnPlaces
import BoxSearch.Proofs.Energy.FirstLowest

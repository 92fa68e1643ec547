import LatticeLP.Scalar.Rational
import LatticeLP.Json.Decode
import LatticeLP.Main
import LatticeLP.Proofs.Tableau.Valuation
import LatticeLP.Proofs.Tableau.Canonical
import LatticeLP.Proofs.Tableau.BasicSolution
import LatticeLP.Proofs.Tableau.Start
import LatticeLP.Proofs.Tableau.Runs
import LatticeLP.Proofs.Tableau.RatioTest
import LatticeLP.Proofs.Tableau.Shortfall
import LatticeLP.Proofs.Tableau.Eviction
import LatticeLP.Proofs.Tableau.Reachable
import LatticeLP.Proofs.Tableau.Verdict
import LatticeLP.Proofs.Tableau.Bland
import LatticeLP.Proofs.Tableau.Tolerance
import LatticeLP.Proofs.Learner.Transitions
import LatticeLP.Proofs.Learner.Table
import LatticeLP.Proofs.Learner.Clock
import LatticeLP.Proofs.Learner.History
import LatticeLP.Proofs.Lattice.Rounding
import LatticeLP.Proofs.Lattice.NearestKey
import LatticeLP.Proofs.Learner.Walk
import LatticeLP.Proofs.Learner.Answer
import LatticeLP.Proofs.Learner.Estimates
import LatticeLP.Proofs.Learner.Episodes
import LatticeLP.Proofs.Learner.KeyRange
import LatticeLP.Proofs.Learner.Feasibility
import LatticeLP.Proofs.Tableau.Grid
import LatticeLP.Proofs.Tableau.Standard
import LatticeLP.Proofs.Tableau.Resumption
import LatticeLP.Proofs.Learner.Simulation
import LatticeLP.Proofs.Learner.Chance
import LatticeLP.Proofs.Learner.Homogeneity
import LatticeLP.Proofs.Learner.Extension
import LatticeLP.Proofs.Scalar.Comparable
import LatticeLP.Proofs.Scalar.Magnitude
import LatticeLP.Proofs.Learner.Selection
import LatticeLP.Proofs.Learner.Sweep
import LatticeLP.Proofs.Comparison.Drawing
import LatticeLP.Proofs.Console.Faults
import LatticeLP.Proofs.Console.Session
import LatticeLP.Proofs.Console.ProgramText
import LatticeLP.Proofs.Tableau.LimitChoice
import LatticeLP.Proofs.Tableau.Budget
import LatticeLP.Proofs.Tableau.PivotCount
import LatticeLP.Proofs.Tableau.NearTies
import LatticeLP.Proofs.Learner.TableChoice
import LatticeLP.Proofs.Learner.TableLog
import LatticeLP.Proofs.Learner.HiddenEntries
import LatticeLP.Proofs.Learner.Greedy
import LatticeLP.Proofs.Learner.Growth
import LatticeLP.Proofs.Learner.DistinctKeys
import LatticeLP.Proofs.Plane.Ceiling
import LatticeLP.Proofs.Plane.DenseForm
import LatticeLP.Proofs.Learner.Decay
import LatticeLP.Proofs.Comparison.Contents
import LatticeLP.Proofs.Comparison.Measures
import LatticeLP.Proofs.Tableau.Layout
import LatticeLP.Proofs.Tableau.Writing
import LatticeLP.Proofs.Tableau.Lookups
import LatticeLP.Proofs.Tableau.Handover

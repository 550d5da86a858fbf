import PassTuner.Candidate.Evolution
import PassTuner.Candidate.Stored
import PassTuner.Catalog
import PassTuner.CommandLine.Run
import PassTuner.Decision.Stored
import PassTuner.Double.Arithmetic
import PassTuner.Double.Notation
import PassTuner.Double.Reader
import PassTuner.Feature.Stored
import PassTuner.Files
import PassTuner.Formula.Display
import PassTuner.Formula.Evolution
import PassTuner.Formula.Order
import PassTuner.Formula.Simplification
import PassTuner.Formula.Stored
import PassTuner.Json.Decoding
import PassTuner.Json.Printer
import PassTuner.Knowledge.Stored
import PassTuner.Main
import PassTuner.Oracle.Barrier.Schedule
import PassTuner.Oracle.Command
import PassTuner.Oracle.CostModel
import PassTuner.Proofs.Search.Bookkeeping
import PassTuner.Proofs.Search.Space
import PassTuner.Proofs.Knowledge.Stored
import PassTuner.Proofs.Search.Elitism
import PassTuner.Random
import PassTuner.Ranking.Stored
import PassTuner.Report
import PassTuner.Search.Config
import PassTuner.Search.Outcome
import PassTuner.Text.Quoted
import PassTuner.Toolbox.Programs
import PassTuner.Toolbox.Regex.Reader
import PassTuner.Toolbox.Tools.Counting
import PassTuner.Toolbox.Tools.Waiting
import PassTuner.Proofs.Knowledge.Requests
import PassTuner.Proofs.Double.Overflow
import PassTuner.Proofs.Catalog.Names
import PassTuner.Proofs.Formula.Closure
import PassTuner.Proofs.Formula.Foldable
import PassTuner.Proofs.Candidate.Changes
import PassTuner.Proofs.Search.Carried
import PassTuner.Proofs.Decision.Payload
import PassTuner.Proofs.Formula.Finite
import PassTuner.Proofs.Oracle.Refusal
import PassTuner.Proofs.Candidate.Mean
import PassTuner.Proofs.Knowledge.Scores
import PassTuner.Proofs.Formula.Shrinking
import PassTuner.Proofs.Formula.Drawing
import PassTuner.Proofs.Formula.Position
import PassTuner.Proofs.Formula.Place
import PassTuner.Proofs.Candidate.Refill
import PassTuner.Proofs.Candidate.Reset
import PassTuner.Proofs.Candidate.Share
import PassTuner.Proofs.Candidate.Import
import PassTuner.Proofs.Formula.Unbounded
import PassTuner.Proofs.Decision.Whole
import PassTuner.Proofs.Ranking.Building
import PassTuner.Proofs.Search.Reevaluation
import PassTuner.Proofs.Feature.Queries
import PassTuner.Proofs.Feature.Stored
import PassTuner.Proofs.Candidate.Draw

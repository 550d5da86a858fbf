import PassTuner.Decision.Basic
import PassTuner.Double.Notation
import PassTuner.Text.Duration

/-! Oracles: whatever applies decisions to the program under search and measures its cost. Lower
costs are better. -/
namespace PassTuner

/-- Why no cost could be had. -/
inductive OracleError where
  | compile (reason : String)
  | measure (reason : String)
  | degenerateCost (cost : Double)
  | timeout (milliseconds : Nat)
  | crashed (reason : String)
  | io (reason : String)
  | saturated (running : Nat)
  deriving DecidableEq, Repr

def OracleError.message : OracleError → String
  | .compile reason => "compilation failed: " ++ reason
  | .measure reason => "measurement failed: " ++ reason
  | .degenerateCost cost => "degenerate cost " ++ String.ofList (Double.Layout.plain.text cost)
  | .timeout milliseconds => "evaluation timed out after " ++ Text.duration milliseconds
  | .crashed reason => "evaluation crashed: " ++ reason
  | .io reason => "io error: " ++ reason
  | .saturated running =>
    toString running ++ " oracle calls still running, refusing to start another"

/-- A measured cost, or why there is none. -/
abbrev Cost := Except OracleError Double

/-- The cost of the program without any decision, and with given ones. `ω` is the state of what
is measured; an answer may depend on it. -/
structure Oracle (ω : Type) where
  baseline : StateM ω Cost
  measure : Decisions → StateM ω Cost

end PassTuner

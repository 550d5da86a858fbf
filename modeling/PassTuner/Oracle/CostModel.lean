import PassTuner.Double.Arithmetic
import PassTuner.Double.Rounding
import PassTuner.Oracle.Barrier

/-! Cost models: measurements computed by rules from the decisions.

A cost starts at a fixed value, and each rule whose condition holds changes it or ends the
measurement. -/
namespace PassTuner

namespace CostModel

/-- What a rule looks for in the decisions. -/
inductive Condition where
  | always
  | on (optimization : String)
  | off (optimization : String)
  /-- exactly so many optimizations are on -/
  | enabled (count : Nat)
  | intOver (name : String) (limit : Int)
  deriving DecidableEq, Repr

/-- What a rule does to the cost. -/
inductive Action where
  | add (amount : Double)
  | mul (factor : Double)
  | set (cost : Double)
  /-- add a decision that is a number -/
  | addNumber (name : String)
  | finish (ending : CallEnd)

structure Rule where
  condition : Condition
  action : Action

def Condition.holds (d : Decisions) : Condition → Bool
  | .always => true
  | .on optimization => d.isEnabled optimization
  | .off optimization => !d.isEnabled optimization
  | .enabled count => d.enabled.length == count
  | .intOver name limit =>
    match d.get? name with
    | some (.int i) => decide (limit < i.toInt)
    | _ => false

/-- The cost after a rule, or how the measurement ends in it. -/
def Action.apply (d : Decisions) (cost : Double) : Action → Except CallEnd Double
  | .add amount => .ok (cost + amount)
  | .mul factor => .ok (cost * factor)
  | .set cost => .ok cost
  | .addNumber name =>
    match d.get? name with
    | some (.int i) => .ok (cost + Double.ofInt i.toInt)
    | some (.float x) => .ok (cost + x)
    | _ => .ok cost
  | .finish ending => .error ending

def applyRules (d : Decisions) : List Rule → Double → CallEnd
  | [], cost => .returned (.ok cost)
  | rule :: rest, cost =>
    if rule.condition.holds d then
      match rule.action.apply d cost with
      | .ok cost => applyRules d rest cost
      | .error ending => ending
    else applyRules d rest cost

end CostModel

/-- A measurement by rules. -/
structure CostModel where
  baseline : CallEnd
  cost : Double
  rules : List CostModel.Rule

namespace CostModel

/-- Rules have no state. -/
def measurement (model : CostModel) : Measurement Unit :=
  ⟨pure model.baseline, fun d => pure (applyRules d model.rules model.cost)⟩

end CostModel

end PassTuner

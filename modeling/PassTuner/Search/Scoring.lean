import PassTuner.Oracle.Basic
import PassTuner.Ranking.Basic

/-! Fitness: how many times faster than the baseline a candidate makes the program.

A cost that is no measurement, and one whose fitness is not finite, is an error; so is a candidate
without decisions. Such evaluations failed and get a fixed fitness. -/
namespace PassTuner

/-- What costs are held against. -/
structure Scoring where
  baseline : Double
  /-- costs up to this one are no measurements -/
  minCost : Double
  /-- the fitness of failed evaluations -/
  fallback : Double
  deriving DecidableEq, Repr

namespace Scoring

def isUsable (minCost cost : Double) : Bool := cost.isFinite && !cost.le minCost

def fitness (s : Scoring) (cost : Double) : Cost :=
  if isUsable s.minCost cost ∧ (s.baseline / cost).isFinite then .ok (s.baseline / cost)
  else .error (.degenerateCost cost)

def failed (s : Scoring) (c : Candidate) (reason : String) : Evaluation :=
  ⟨c, s.fallback, .failed reason⟩

def judge (s : Scoring) (c : Candidate) : Cost → Evaluation
  | .error e => s.failed c e.message
  | .ok cost =>
    match s.fitness cost with
    | .ok fitness => ⟨c, fitness, .measured cost⟩
    | .error e => s.failed c e.message

variable {ω : Type}

/-- Decide for a program, measure and judge. -/
def evaluate (s : Scoring) (features : FeatureSource) (oracle : Oracle ω) (c : Candidate) :
    StateM ω Evaluation :=
  match c.decide features with
  | .error e => pure (s.failed c e.message)
  | .ok decisions => do
    let cost ← oracle.measure decisions
    return s.judge c cost

def evaluateAll (s : Scoring) (features : FeatureSource) (oracle : Oracle ω) :
    List Candidate → StateM ω (List Evaluation)
  | [] => pure []
  | c :: rest => do
    let first ← s.evaluate features oracle c
    let others ← evaluateAll s features oracle rest
    return first :: others

end Scoring

end PassTuner

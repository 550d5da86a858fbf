import PassTuner.Candidate.Basic

/-! Evaluations and their ranking: higher fitness first, then candidate order. -/
namespace PassTuner

/-- How an evaluation ended. -/
inductive EvaluationStatus where
  | measured (cost : Double)
  | failed (reason : String)
  deriving DecidableEq, Repr, Inhabited

/-- A candidate with the fitness it was given. -/
structure Evaluation where
  candidate : Candidate
  fitness : Double
  status : EvaluationStatus
  deriving DecidableEq, Repr, Inhabited

namespace Evaluation

def isFailed (e : Evaluation) : Bool :=
  match e.status with
  | .measured _ => false
  | .failed _ => true

def order (a b : Evaluation) : Ordering :=
  (b.fitness.totalCompare a.fitness).then (a.candidate.order b.candidate)

end Evaluation

/-- Evaluations in rank order; equals keep the order in which they came. -/
structure Ranking where
  entries : List Evaluation
  deriving DecidableEq, Repr, Inhabited

namespace Ranking

def empty : Ranking := ⟨[]⟩

def ofList (entries : List Evaluation) : Ranking := ⟨Sorted.sort Evaluation.order entries⟩

/-- Put an evaluation behind all that rank no lower. -/
def insert (r : Ranking) (e : Evaluation) : Ranking :=
  ⟨Sorted.insertAfter Evaluation.order e r.entries⟩

def extend (r other : Ranking) : Ranking := ofList (r.entries ++ other.entries)

def best? (r : Ranking) : Option Evaluation := r.entries.head?

def size (r : Ranking) : Nat := r.entries.length

end Ranking

end PassTuner

import PassTuner.Search.Pool

/-! Generations: draw candidates, evaluate and rank them, and take the ranking into the
knowledge base in rank order. -/
namespace PassTuner

def KnowledgeBase.recordAll (k : KnowledgeBase) (evaluations : List Evaluation) : KnowledgeBase :=
  evaluations.foldl (fun k e => (k.record e.candidate e.fitness).1) k

namespace Search

def summarize (s : Search) (knowledge : KnowledgeBase) (ranking : Ranking) : GenerationSummary where
  generation := s.history.length
  pool := ranking.size
  failed := ranking.entries.countP Evaluation.isFailed
  bestFitness := match ranking.best? with
    | some best => best.fitness
    | none => s.config.fallbackFitness
  knowledgeSize := knowledge.size

def absorb (s : Search) (ranking : Ranking) : Search :=
  let knowledge := s.knowledge.recordAll ranking.entries
  { s with
    knowledge := knowledge
    history := s.history ++ [s.summarize knowledge ranking]
    ranking := s.ranking.extend ranking }

variable {ω : Type}

/-- One generation: its ranking, and the search after it. A failed draw moves nothing but the
random stream. -/
def step (oracle : Oracle ω) (s : Search) : StateM ω (Except FormulaError Ranking × Search) :=
  let (pool, random) := s.drawPool.run.run s.random
  let moved := { s with random := random }
  match pool with
  | .error e => pure (.error e, moved)
  | .ok pool => do
    let evaluations ← moved.scoring.evaluateAll s.features oracle pool
    let ranking := Ranking.ofList evaluations
    return (.ok ranking, moved.absorb ranking)

/-- So many generations, up to the first that fails. -/
def steps (oracle : Oracle ω) : Nat → Search → StateM ω (Except FormulaError Unit × Search)
  | 0, s => pure (.ok (), s)
  | n + 1, s => do
    match ← s.step oracle with
    | (.error e, s) => return (.error e, s)
    | (.ok _, s) => steps oracle n s

end Search

end PassTuner

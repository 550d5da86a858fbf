import PassTuner.Search.Generation

/-! The outcome of a search: its best candidate, and the knowledge base left for later searches. -/
namespace PassTuner

/-- What a finished search has found. -/
structure Outcome where
  best : Candidate
  /-- the fitness of the best candidate in its best evaluation -/
  bestFitness : Double
  /-- the score that the knowledge base holds for it -/
  knowledgeScore : Double
  baseline : Double
  generations : List GenerationSummary
  /-- every evaluation, best first -/
  ranking : Ranking
  deriving Repr

def Outcome.report (o : Outcome) : SearchReport :=
  ⟨o.baseline, o.bestFitness, o.knowledgeScore, o.best.toRecord, o.generations⟩

namespace Search

def outcome (s : Search) : Except Failure Outcome :=
  match s.ranking.best? with
  | none => .error .noGeneration
  | some best =>
    let score := match s.knowledge.find? best.candidate with
      | some stored => stored.score
      | none => best.fitness
    .ok ⟨best.candidate, best.fitness, score, s.baseline, s.history, s.ranking⟩

/-- Write the knowledge base to its file, if it has one. -/
def persist (s : Search) (files : Files) : Except Failure Files :=
  match s.config.knowledgeBase with
  | none => .ok files
  | some path =>
    match files.writeDeep? path s.knowledge.save with
    | some files => .ok files
    | none => .error .unwritableFile

/-- Write the knowledge base, then tell the outcome. -/
def finish (s : Search) (files : Files) : Except Failure Outcome × Files :=
  match s.persist files with
  | .error e => (.error e, files)
  | .ok files => (s.outcome, files)

/-- The generations of the settings, then the end. What is measured may work on the files; `files`
tells how it has left them. -/
def run {ω : Type} (oracle : Oracle ω) (files : ω → Files) (s : Search) :
    StateM ω (Except Failure Outcome × Files × Search) := do
  match ← steps oracle s.config.generations s with
  | (.error e, s) => return (.error (.formula e), files (← get), s)
  | (.ok (), s) =>
    let (outcome, files) := s.finish (files (← get))
    return (outcome, files, s)

end Search

end PassTuner

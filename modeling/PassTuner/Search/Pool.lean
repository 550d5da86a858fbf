import PassTuner.Candidate.Evolution
import PassTuner.Search.Basic

/-! The candidates of a generation.

They are copies of the best known ones, some of them evolved, and the best known one as it is.
While nothing is known they start empty. Entries that fit no active point are dropped, and every
active point without a formula gets one. -/
namespace PassTuner.Search

/-- A copy of a known candidate, which evolves with the probability of the settings. -/
def selectElite (s : Search) (elite : Candidate) : Gen Candidate := do
  let kept := (elite.retain s.points).1
  let draw ← Gen.draw Random.double
  if draw.lt s.config.evolveProbability then do
    let ((evolved, outcome), _) ← Gen.draw ((kept.evolve s.config.strategy s.features
      s.config.grammar s.config.maxEvolutionRate).run ())
    match outcome with
    | .ok _ => return evolved
    | .error e => throw e
  else return kept

def selectElites (s : Search) : List Candidate → Gen (List Candidate)
  | [] => return []
  | elite :: rest => do
    let first ← s.selectElite elite
    let others ← s.selectElites rest
    return first :: others

/-- The candidates of the next generation, as yet with gaps. -/
def selectPool (s : Search) : Gen (List Candidate) := do
  match s.knowledge.ranked with
  | [] => return List.replicate s.config.candidatesNumber .empty
  | best :: others => do
    let elites ← s.selectElites ((best :: others).take s.config.candidatesNumber)
    return elites ++ [(best.retain s.points).1]

def complete (s : Search) (c : Candidate) : Gen Candidate := do
  let (filled, outcome) ← Gen.draw (c.generateMissing s.features s.config.grammar s.points)
  match outcome with
  | .ok _ => return filled
  | .error e => throw e

def completeAll (s : Search) : List Candidate → Gen (List Candidate)
  | [] => return []
  | c :: rest => do
    let first ← s.complete c
    let others ← s.completeAll rest
    return first :: others

def drawPool (s : Search) : Gen (List Candidate) := do
  let pool ← s.selectPool
  s.completeAll pool

end PassTuner.Search

import PassTuner.Failure
import PassTuner.Feature.Basic
import PassTuner.Files
import PassTuner.Report
import PassTuner.Search.Scoring

/-! Searches: their state between two generations, and how they start.

The random stream and the knowledge base belong to the search; what is measured belongs to the
oracle, whose state is threaded through beside it. -/
namespace PassTuner

/-- A search between two generations. -/
structure Search where
  config : SearchConfig
  points : List DecisionPoint
  features : FeatureSource
  knowledge : KnowledgeBase
  random : Random
  baseline : Double
  /-- all evaluations so far -/
  ranking : Ranking
  history : List GenerationSummary

namespace Search

def scoring (s : Search) : Scoring := ⟨s.baseline, s.config.minCost, s.config.fallbackFitness⟩

/-- The knowledge base of a path. Without a path, and before the file is there, it is empty. -/
def loadKnowledge (files : Files) : Option String → Except Failure KnowledgeBase
  | none => .ok .empty
  | some path =>
    if files.contains path then
      match files.read? path with
      | some text => (KnowledgeBase.load text).mapError Failure.ofLoad
      | none => .error .unreadableFile
    else .ok .empty

/-- The checks that need no measurement: the settings, the catalog, that there is something to
decide, and the knowledge base. -/
def prepare (config : SearchConfig) (catalog : Catalog) (files : Files) :
    Except Failure (List DecisionPoint × KnowledgeBase) := do
  config.validate.mapError Failure.config
  catalog.validate.mapError Failure.catalog
  let points := catalog.decisionPoints config.parameterized
  if points.isEmpty then .error .noDecisionPoints
  else do
    let knowledge ← loadKnowledge files config.knowledgeBase
    .ok (points, knowledge)

def checkBaseline (config : SearchConfig) : Cost → Except Failure Double
  | .error e => .error (.oracle e)
  | .ok cost =>
    if Scoring.isUsable config.minCost cost then .ok cost else .error (.unusableBaseline cost)

/-- A stream that starts where the settings say, at zero if they do not. -/
def stream (config : SearchConfig) : Random := ⟨UInt64.ofNat (config.seed.getD 0)⟩

/-- Start a search: check what was given, then measure the program without decisions. -/
def start {ω : Type} (config : SearchConfig) (catalog : Catalog) (features : FeatureSource)
    (files : Files) (oracle : Oracle ω) : StateM ω (Except Failure Search) :=
  match prepare config catalog files with
  | .error e => pure (.error e)
  | .ok (points, knowledge) => do
    let measured ← oracle.baseline
    return (checkBaseline config measured).map fun baseline =>
      ⟨config, points, features, knowledge, stream config, baseline, .empty, []⟩

end Search

end PassTuner

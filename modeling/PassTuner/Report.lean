import PassTuner.Candidate.Stored

/-! The report of a finished search. -/
namespace PassTuner

/-- What is kept of one generation. -/
structure GenerationSummary where
  generation : Nat
  pool : Nat
  failed : Nat
  bestFitness : Double
  knowledgeSize : Nat
  deriving DecidableEq, Repr, Inhabited

structure SearchReport where
  baselineCost : Double
  /-- the fitness of the best candidate in its best evaluation -/
  bestFitness : Double
  /-- the score that the knowledge base holds for it -/
  knowledgeScore : Double
  best : CandidateRecord
  generations : List GenerationSummary
  deriving DecidableEq, Repr, Inhabited

namespace GenerationSummary

def toJson (s : GenerationSummary) : Json :=
  .object [("generation", .int s.generation), ("pool", .int s.pool), ("failed", .int s.failed),
    ("best_fitness", .float s.bestFitness), ("knowledge_size", .int s.knowledgeSize)]

def ofJson : Json.Decoder GenerationSummary :=
  Json.record
    [.of "generation" true Json.asWord fun n s => { s with generation := n },
     .of "pool" true Json.asWord fun n s => { s with pool := n },
     .of "failed" true Json.asWord fun n s => { s with failed := n },
     .of "best_fitness" true Json.asDouble fun x s => { s with bestFitness := x },
     .of "knowledge_size" true Json.asWord fun n s => { s with knowledgeSize := n }]
    ⟨0, 0, 0, .zero, 0⟩

end GenerationSummary

namespace SearchReport

def toJson (r : SearchReport) : Json :=
  .object [("baseline_cost", .float r.baselineCost), ("best_fitness", .float r.bestFitness),
    ("knowledge_score", .float r.knowledgeScore), ("best", r.best.toJson),
    ("generations", .array (r.generations.map GenerationSummary.toJson))]

def ofJson : Json.Decoder SearchReport :=
  Json.record
    [.of "baseline_cost" true Json.asDouble fun x r => { r with baselineCost := x },
     .of "best_fitness" true Json.asDouble fun x r => { r with bestFitness := x },
     .of "knowledge_score" true Json.asDouble fun x r => { r with knowledgeScore := x },
     .of "best" true CandidateRecord.ofJson fun c r => { r with best := c },
     .of "generations" true (Json.asArray GenerationSummary.ofJson) fun gs r =>
       { r with generations := gs }]
    ⟨.zero, .zero, .zero, ⟨.zero, 0, []⟩, []⟩

def parse (text : String) : Except ReadError SearchReport := Json.decodeText ofJson text

def compact (r : SearchReport) : String := String.ofList r.toJson.compact

def pretty (r : SearchReport) : String := String.ofList r.toJson.pretty

end SearchReport

end PassTuner

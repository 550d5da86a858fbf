import PassTuner.Formula.Evolution
import PassTuner.Json.Decoding
import PassTuner.Json.Printer

/-! The settings of a search, their checks and their stored form. -/
namespace PassTuner

structure SearchConfig where
  /-- how many of the best known candidates enter a generation -/
  candidatesNumber : Nat
  generations : Nat
  /-- how likely a copy of a known candidate evolves before it is evaluated -/
  evolveProbability : Double
  /-- how likely a subtree is drawn afresh rather than entered -/
  mutationProbability : Double
  /-- the share of a candidate's entries that evolve at once -/
  maxEvolutionRate : Double
  maxFormulaDepth : Nat
  intLiteralMax : Int64
  floatLiteralMax : Double
  /-- search the arguments of optimizations, too -/
  parameterized : Bool
  knowledgeBase : Option String
  seed : Option Nat
  oracleTimeout : Nat
  /-- the fitness of failed evaluations -/
  fallbackFitness : Double
  /-- costs up to this one are no measurements -/
  minCost : Double
  workers : Option Nat
  deriving DecidableEq, Repr, Inhabited

/-- Why settings cannot be used. -/
inductive ConfigError where
  | zero (setting : String)
  | noProbability (setting : String) (value : Double)
  | negative (setting : String)
  | negativeOrNonFinite (setting : String)
  | nonFinite (setting : String)
  | zeroWorkers
  deriving DecidableEq, Repr

def ConfigError.message : ConfigError → String
  | .zero setting => setting ++ " must be > 0"
  | .noProbability setting value =>
    setting ++ " must be in [0, 1], got " ++ String.ofList (Double.Layout.plain.text value)
  | .negative setting => setting ++ " must be >= 0"
  | .negativeOrNonFinite setting => setting ++ " must be finite and >= 0"
  | .nonFinite setting => setting ++ " must be finite"
  | .zeroWorkers => "workers must be > 0 when set"

namespace SearchConfig

def default : SearchConfig where
  candidatesNumber := 8
  generations := 10
  evolveProbability := Double.ofDecimal false 8 (-1)
  mutationProbability := Double.ofDecimal false 3 (-1)
  maxEvolutionRate := Double.ofDecimal false 5 (-1)
  maxFormulaDepth := Grammar.default.maxDepth
  intLiteralMax := Grammar.default.intLiteralMax
  floatLiteralMax := Grammar.default.floatLiteralMax
  parameterized := false
  knowledgeBase := none
  seed := none
  oracleTimeout := 60000
  fallbackFitness := .zero
  minCost := Double.ofDecimal false 1 (-9)
  workers := none

def grammar (c : SearchConfig) : Grammar := ⟨c.maxFormulaDepth, c.intLiteralMax, c.floatLiteralMax⟩

def strategy (c : SearchConfig) : Strategy Unit := Strategy.subtreeMutation c.mutationProbability

def isProbability (x : Double) : Bool := Double.zero.le x && x.le .one

/-- The checks in their order, each with the error of its failure. -/
def checks (c : SearchConfig) : List (Bool × ConfigError) :=
  [(c.candidatesNumber != 0, .zero "candidates_number"),
   (c.generations != 0, .zero "generations"),
   (isProbability c.evolveProbability, .noProbability "evolve_probability" c.evolveProbability),
   (isProbability c.mutationProbability, .noProbability "mutation_probability" c.mutationProbability),
   (isProbability c.maxEvolutionRate, .noProbability "max_evolution_rate" c.maxEvolutionRate),
   (decide (0 ≤ c.intLiteralMax.toInt), .negative "int_literal_max"),
   (c.floatLiteralMax.isFinite && !c.floatLiteralMax.lt .zero, .negativeOrNonFinite "float_literal_max"),
   (c.oracleTimeout != 0, .zero "oracle_timeout_ms"),
   (c.fallbackFitness.isFinite, .nonFinite "fallback_fitness"),
   (c.minCost.isFinite && !c.minCost.lt .zero, .negativeOrNonFinite "min_cost"),
   (c.workers != some 0, .zeroWorkers)]

def validate (c : SearchConfig) : Except ConfigError Unit :=
  match c.checks.find? fun check => !check.1 with
  | some (_, e) => .error e
  | none => .ok ()

/-- A setting that may be unset, as stored. -/
def optionJson {α : Type} (write : α → Json) : Option α → Json
  | some a => write a
  | none => .null

def toJson (c : SearchConfig) : Json :=
  .object [("candidates_number", .int c.candidatesNumber), ("generations", .int c.generations),
    ("evolve_probability", .float c.evolveProbability),
    ("mutation_probability", .float c.mutationProbability),
    ("max_evolution_rate", .float c.maxEvolutionRate), ("max_formula_depth", .int c.maxFormulaDepth),
    ("int_literal_max", .int c.intLiteralMax.toInt), ("float_literal_max", .float c.floatLiteralMax),
    ("parameterized", .bool c.parameterized),
    ("knowledge_base", optionJson Json.string c.knowledgeBase),
    ("seed", optionJson (fun n : Nat => .int n) c.seed), ("oracle_timeout_ms", .int c.oracleTimeout),
    ("fallback_fitness", .float c.fallbackFitness), ("min_cost", .float c.minCost),
    ("workers", optionJson (fun n : Nat => .int n) c.workers)]

def slots : List (Json.Slot Json SearchConfig) :=
  [.of "candidates_number" false Json.asWord fun n c => { c with candidatesNumber := n },
   .of "generations" false Json.asWord fun n c => { c with generations := n },
   .of "evolve_probability" false Json.asDouble fun x c => { c with evolveProbability := x },
   .of "mutation_probability" false Json.asDouble fun x c => { c with mutationProbability := x },
   .of "max_evolution_rate" false Json.asDouble fun x c => { c with maxEvolutionRate := x },
   .of "max_formula_depth" false Json.asWord fun n c => { c with maxFormulaDepth := n },
   .of "int_literal_max" false Json.asInt64 fun i c => { c with intLiteralMax := i },
   .of "float_literal_max" false Json.asDouble fun x c => { c with floatLiteralMax := x },
   .of "parameterized" false Json.asBool fun b c => { c with parameterized := b },
   .of "knowledge_base" false (Json.optional Json.asString) fun p c => { c with knowledgeBase := p },
   .of "seed" false (Json.optional Json.asWord) fun n c => { c with seed := n },
   .of "oracle_timeout_ms" false Json.asWord fun n c => { c with oracleTimeout := n },
   .of "fallback_fitness" false Json.asDouble fun x c => { c with fallbackFitness := x },
   .of "min_cost" false Json.asDouble fun x c => { c with minCost := x },
   .of "workers" false (Json.optional Json.asWord) fun n c => { c with workers := n }]

def ofJson : Json.Decoder SearchConfig := Json.record slots default

def parse (text : String) : Except ReadError SearchConfig := Json.decodeText ofJson text

def compact (c : SearchConfig) : String := String.ofList c.toJson.compact

end SearchConfig

end PassTuner

import PassTuner.CommandLine.Options
import PassTuner.Feature.Stored
import PassTuner.Oracle.Command
import PassTuner.Search.Outcome

/-! Running commands on a tree of files: what they print, and the files they leave. -/
namespace PassTuner.CommandLine

/-- What a command run has come to. -/
structure Ran where
  output : String
  failure : Option Failure
  files : Files

def load {α : Type} (files : Files) (parse : String → Except ReadError α) (path : String) :
    Except Failure α :=
  match files.read? path with
  | none => .error .unreadableFile
  | some text => (parse text).mapError Failure.malformed

/-- The catalog of a file, or the built-in one; checked in either case. -/
def loadCatalog (files : Files) (path : Option String) : Except Failure Catalog := do
  let catalog ← match path with
    | some path => load files Catalog.parse path
    | none => .ok .default
  catalog.validate.mapError Failure.catalog
  .ok catalog

def loadConfig (files : Files) (path : Option String) : Except Failure SearchConfig :=
  match path with
  | some path => load files SearchConfig.parse path
  | none => .ok .default

def SearchOptions.override (o : SearchOptions) (c : SearchConfig) : SearchConfig :=
  { c with
    knowledgeBase := o.knowledgeBase <|> c.knowledgeBase
    generations := o.generations.getD c.generations
    candidatesNumber := o.candidates.getD c.candidatesNumber
    seed := o.seed <|> c.seed
    oracleTimeout := o.timeout.getD c.oracleTimeout
    parameterized := c.parameterized || o.parameterized }

/-- What a search is made of. -/
structure Setup where
  config : SearchConfig
  features : FeatureSet
  catalog : Catalog
  command : MeasuringCommand

/-- Load what a search needs: settings, features, then catalog. -/
def SearchOptions.setup (o : SearchOptions) (files : Files) (freshSeed : Nat) :
    Except Failure Setup := do
  let config ← loadConfig files o.config
  let config := o.override config
  let features ← load files FeatureSet.parse o.features
  let catalog ← loadCatalog files o.catalog
  match MeasuringCommand.ofWords? o.words config.oracleTimeout with
  | some command => .ok ⟨{ config with seed := config.seed <|> some freshSeed }, features, catalog, command⟩
  | none => .error .noCommand

def fixedText (places : Nat) (x : Double) : String := String.ofList (x.fixed places)

def summary (o : Outcome) : String :=
  "baseline_cost=" ++ fixedText 6 o.baseline ++ " best_speedup=" ++ fixedText 4 o.bestFitness ++
    " knowledge_score=" ++ fixedText 4 o.knowledgeScore ++
    " evaluations=" ++ toString o.ranking.size ++ "\n" ++ o.best.display

/-- Write the report, if a file is given for it. -/
def writeReport (o : Outcome) (files : Files) : Option String → Option Files
  | none => some files
  | some path => files.write? path o.report.pretty

/-- Search and report. What is written for someone to see is printed behind the summary. -/
def runSearch (o : SearchOptions) (programs : Programs) (freshSeed : Nat) (files : Files) : Ran :=
  match o.setup files freshSeed with
  | .error e => ⟨"", some e, files⟩
  | .ok setup =>
    let barrier := Barrier.ofLimits setup.config.oracleTimeout Barrier.defaultSlots
    let oracle := barrier.protect (setup.command.measurement programs)
    match (Search.start setup.config setup.catalog setup.features files oracle).run (0, files) with
    | (.error e, _, files) => ⟨"", some e, files⟩
    | (.ok search, world) =>
      let ((outcome, files, _), _) := (search.run oracle Prod.snd).run world
      match outcome with
      | .error e => ⟨"", some e, files⟩
      | .ok outcome =>
        match writeReport outcome files o.report with
        | some files => ⟨summary outcome ++ printedText files.shown, none, files⟩
        | none => ⟨summary outcome, some .unwritableFile, files⟩

/-- The candidates of a ranking with their places, from `place` on. -/
def listRanked : Nat → List Candidate → String
  | _, [] => ""
  | place, c :: rest =>
    "#" ++ toString place ++ " " ++ c.display ++ "\n" ++ listRanked (place + 1) rest

/-- Print the best candidates of a knowledge base, which must be there. -/
def runInspect (path : String) (top : Nat) (files : Files) : Except Failure String :=
  if files.contains path then do
    let knowledge ← Search.loadKnowledge files (some path)
    .ok ("candidates=" ++ toString knowledge.size ++ "\n" ++ listRanked 1 (knowledge.ranked.take top))
  else .error (.missingKnowledgeBase path)

def runCatalog (path : Option String) (parameterized : Bool) (files : Files) : Except Failure String := do
  let catalog ← loadCatalog files path
  .ok (String.join ((catalog.decisionPoints parameterized).map fun point => point.display ++ "\n"))

/-- What a command that writes no file has come to. -/
def printed (files : Files) : Except Failure String → Ran
  | .ok output => ⟨output, none, files⟩
  | .error e => ⟨"", some e, files⟩

/-- Run a command. The seed is for a search that is given none. -/
def run (command : Command) (programs : Programs) (freshSeed : Nat) (files : Files) : Ran :=
  match command with
  | .search options => runSearch options programs freshSeed files
  | .inspect path top => printed files (runInspect path top files)
  | .catalog path parameterized => printed files (runCatalog path parameterized files)

end PassTuner.CommandLine

import PassTuner.Proofs.Checked
import PassTuner.Search.Generation

/-! The states of a search.

A search is reachable if it comes from an accepted start by generations, with any answers of the
oracle and from any place of the random stream. `startSource` and `stepCases` say once what a
start and a generation do; what holds of every reachable search follows by induction. -/
namespace PassTuner

namespace SearchConfig

theorem validChecks {c : SearchConfig} (valid : c.validate = .ok ()) :
    ∀ check ∈ c.checks, check.1 = true := by
  intro check mem
  simp only [validate] at valid
  split at valid <;> try contradiction
  rename_i passed
  simpa using List.find?_eq_none.mp passed check mem

theorem validFallback {c : SearchConfig} (valid : c.validate = .ok ()) :
    c.fallbackFitness.isFinite :=
  validChecks valid (c.fallbackFitness.isFinite, .nonFinite "fallback_fitness") (by simp [checks])

theorem validNumber {c : SearchConfig} (valid : c.validate = .ok ()) : c.candidatesNumber ≠ 0 := by
  have checked := validChecks valid (c.candidatesNumber != 0, .zero "candidates_number")
    (by simp [checks])
  simpa using checked

end SearchConfig

namespace Search

variable {ω : Type}

theorem prepareSource {config catalog files points knowledge}
    (ok : prepare config catalog files = .ok (points, knowledge)) :
    config.validate = .ok () ∧ catalog.validate = .ok () ∧
      points = catalog.decisionPoints config.parameterized ∧
      loadKnowledge files config.knowledgeBase = .ok knowledge := by
  simp only [prepare, bind, Except.bind] at ok
  split at ok <;> try contradiction
  rename_i valid
  split at ok <;> try contradiction
  rename_i checked
  split at ok <;> try contradiction
  split at ok <;> try contradiction
  rename_i loaded
  cases ok
  exact ⟨Checked.mapErrorOk.mp valid, Checked.mapErrorOk.mp checked, rfl, loaded⟩

theorem prepareOk {config catalog files knowledge} (valid : config.validate = .ok ())
    (checked : catalog.validate = .ok ())
    (some : (catalog.decisionPoints config.parameterized).isEmpty = false)
    (loaded : loadKnowledge files config.knowledgeBase = .ok knowledge) :
    prepare config catalog files =
      .ok (catalog.decisionPoints config.parameterized, knowledge) := by
  simp only [prepare, valid, checked, some, loaded]
  rfl

/-- What an accepted start has checked, and the search it leads to. -/
structure Started (config : SearchConfig) (catalog : Catalog) (features : FeatureSource)
    (files : Files) (s : Search) : Prop where
  valid : config.validate = .ok ()
  checked : catalog.validate = .ok ()
  settings : s.config = config
  points : s.points = catalog.decisionPoints config.parameterized
  features : s.features = features
  knowledge : loadKnowledge files config.knowledgeBase = .ok s.knowledge
  history : s.history = []
  ranking : s.ranking = .empty

theorem startSource {config catalog features files} {oracle : Oracle ω} {s} {w w' : ω}
    (ok : (start config catalog features files oracle).run w = (.ok s, w')) :
    Started config catalog features files s := by
  simp only [start] at ok
  split at ok
  · have refused := congrArg Prod.fst ok
    contradiction
  · rename_i points knowledge prepared
    obtain ⟨valid, checked, rfl, loaded⟩ := prepareSource prepared
    obtain ⟨baseline, _, rfl⟩ := Checked.mapOk.mp (congrArg Prod.fst ok)
    exact ⟨valid, checked, rfl, rfl, rfl, loaded, rfl, rfl⟩

theorem stepCases {oracle : Oracle ω} {s s' : Search} {result} {w w' : ω}
    (step : (s.step oracle).run w = ((result, s'), w')) :
    ∃ drawn random, s.drawPool.run.run s.random = (drawn, random) ∧
      match drawn with
      | .error e => result = .error e ∧ s' = { s with random := random } ∧ w' = w
      | .ok pool => ∃ evaluations,
          (s.scoring.evaluateAll s.features oracle pool).run w = (evaluations, w') ∧
            result = .ok (.ofList evaluations) ∧
            s' = { s with random := random }.absorb (.ofList evaluations) := by
  rcases draws : s.drawPool.run.run s.random with ⟨drawn, random⟩
  simp only [Search.step, draws] at step
  refine ⟨drawn, random, rfl, ?_⟩
  cases drawn with
  | error e =>
    cases step
    exact ⟨rfl, rfl, rfl⟩
  | ok pool =>
    cases step
    exact ⟨_, rfl, rfl, rfl⟩

inductive Reachable (features : FeatureSource) (oracle : Oracle ω) : Search → Prop
  | started {config catalog files s} {w w' : ω}
      (start : (Search.start config catalog features files oracle).run w = (.ok s, w')) :
      Reachable features oracle s
  | reseeded {s : Search} (random : Random) (before : Reachable features oracle s) :
      Reachable features oracle { s with random := random }
  | stepped {s s' : Search} {result} {w w' : ω} (before : Reachable features oracle s)
      (step : (s.step oracle).run w = ((result, s'), w')) : Reachable features oracle s'

theorem stepKeeps {oracle : Oracle ω} {s s' : Search} {result} {w w' : ω}
    (step : (s.step oracle).run w = ((result, s'), w')) :
    s'.config = s.config ∧ s'.points = s.points ∧ s'.features = s.features := by
  obtain ⟨drawn, random, _, cases⟩ := stepCases step
  cases drawn with
  | error e =>
    obtain ⟨_, rfl, _⟩ := cases
    exact ⟨rfl, rfl, rfl⟩
  | ok pool =>
    obtain ⟨_, _, _, rfl⟩ := cases
    exact ⟨rfl, rfl, rfl⟩

theorem stepScoring {oracle : Oracle ω} {s s' : Search} {result} {w w' : ω}
    (step : (s.step oracle).run w = ((result, s'), w')) : s'.scoring = s.scoring := by
  obtain ⟨drawn, random, _, cases⟩ := stepCases step
  cases drawn with
  | error e =>
    obtain ⟨_, rfl, _⟩ := cases
    rfl
  | ok pool =>
    obtain ⟨_, _, _, rfl⟩ := cases
    rfl

theorem stepRefused {oracle : Oracle ω} {s s' : Search} {e : FormulaError} {w w' : ω}
    (step : (s.step oracle).run w = ((.error e, s'), w')) : s'.knowledge = s.knowledge := by
  obtain ⟨drawn, random, _, cases⟩ := stepCases step
  cases drawn with
  | error e =>
    obtain ⟨_, rfl, _⟩ := cases
    rfl
  | ok pool =>
    obtain ⟨_, _, failed, _⟩ := cases
    contradiction

/-- A generation that succeeds: what it evaluates, how it ranks, and what it leaves. -/
theorem stepEvaluates {oracle : Oracle ω} {s s' : Search} {ranking : Ranking} {w w' : ω}
    (step : (s.step oracle).run w = ((.ok ranking, s'), w')) :
    ∃ pool random, s.drawPool.run.run s.random = (.ok pool, random) ∧
      ranking = .ofList ((s.scoring.evaluateAll s.features oracle pool).run w).1 ∧
      s' = { s with random := random }.absorb ranking := by
  obtain ⟨drawn, random, ran, cases⟩ := stepCases step
  cases drawn with
  | error e => exact nomatch cases.1
  | ok pool =>
    obtain ⟨evaluations, evaluated, ok, rfl⟩ := cases
    cases ok
    refine ⟨pool, random, ran, ?_, rfl⟩
    rw [evaluated]

theorem stepTaken {oracle : Oracle ω} {s s' : Search} {ranking : Ranking} {w w' : ω}
    (step : (s.step oracle).run w = ((.ok ranking, s'), w')) :
    s'.knowledge = s.knowledge.recordAll ranking.entries := by
  obtain ⟨_, random, _, _, rfl⟩ := stepEvaluates step
  rfl

theorem stepHistory {oracle : Oracle ω} {s s' : Search} {ranking : Ranking} {w w' : ω}
    (step : (s.step oracle).run w = ((.ok ranking, s'), w')) :
    s'.history.length = s.history.length + 1 := by
  obtain ⟨_, random, _, _, rfl⟩ := stepEvaluates step
  exact List.length_append

theorem reachableConfig {features} {oracle : Oracle ω} {s : Search}
    (reachable : Reachable features oracle s) : s.config.validate = .ok () := by
  induction reachable with
  | started start =>
    have source := startSource start
    rw [source.settings]
    exact source.valid
  | reseeded random before ih => exact ih
  | stepped before step ih =>
    rw [(stepKeeps step).1]
    exact ih

theorem reachableFeatures {features} {oracle : Oracle ω} {s : Search}
    (reachable : Reachable features oracle s) : s.features = features := by
  induction reachable with
  | started start => exact (startSource start).features
  | reseeded random before ih => exact ih
  | stepped before step ih => exact (stepKeeps step).2.2.trans ih

/-! A knowledge base in a file of the working place. -/

/-- The files of a working place with nothing but a text under the name `kb`. -/
def fileWith (text : String) : Files :=
  ⟨[(["tmp", "work"], .directory), (["tmp", "work", "kb"], .file (Text.bytes text) false)]⟩

theorem readText {fs : Files} {path text : String} {executable : Bool}
    (found : fs.find Files.workingPlace (Files.pathBytes path) =
      .ok (.file (Text.bytes text) executable)) :
    fs.contains path ∧ fs.read? path = some text := by
  rw [Files.contains, Files.read?, Files.read, found]
  exact ⟨rfl, Text.ofBytes?_bytes text⟩

theorem loadText {fs : Files} {path text : String} {k : KnowledgeBase}
    (read : fs.contains path ∧ fs.read? path = some text)
    (loaded : (KnowledgeBase.load text).toOption = some k) :
    loadKnowledge fs (some path) = .ok k := by
  rw [loadKnowledge, if_pos read.1, read.2]
  dsimp only
  cases load : KnowledgeBase.load text with
  | error e =>
    rw [load] at loaded
    contradiction
  | ok stored =>
    rw [load] at loaded
    cases loaded
    rfl

theorem splitText : "kb".splitOn "/" = ["kb"] := by
  have start : "kb".splitOn "/" = "kb".splitOnAux "/" 0 0 0 [] := rfl
  -- neither of the two characters is the separator, and then the text is over
  rw [start, String.splitOnAux, if_neg (by decide), if_neg (by decide)]
  rw [String.splitOnAux, if_neg (by decide), if_neg (by decide)]
  rw [String.splitOnAux, if_pos (by decide)]
  decide

theorem loadFile {text : String} {k : KnowledgeBase}
    (loaded : (KnowledgeBase.load text).toOption = some k) :
    loadKnowledge (fileWith text) (some "kb") = .ok k := by
  have path : Files.pathBytes "kb" = "kb" := by decide +kernel
  have relative : "kb".startsWith "/" = false := by decide +kernel
  have named : "kb".isEmpty = false := by decide
  have found : (fileWith text).find Files.workingPlace (Files.pathBytes "kb") =
      .ok (.file (Text.bytes text) false) := by
    rw [path, Files.find, Files.locate, splitText, relative, named]
    rfl
  exact loadText (readText found) loaded

end Search

end PassTuner

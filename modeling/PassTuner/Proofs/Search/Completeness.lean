import PassTuner.Proofs.Candidate.Completion
import PassTuner.Proofs.Catalog
import PassTuner.Proofs.Knowledge.Accounting
import PassTuner.Proofs.Knowledge.Stored
import PassTuner.Proofs.Search.Accounting
import PassTuner.Proofs.Search.Pool

/-! Every candidate that is evaluated covers the active points.

What a search knows stays well-formed, whatever files it was started from, and a generation is
drawn from nothing else. Stored entries that do not fit the active points take no part in it. -/
namespace PassTuner
open Std

theorem Candidate.WellFormed.sameEntries {c d : Candidate} (wellFormed : c.WellFormed)
    (same : d.entries = c.entries) : d.WellFormed :=
  ⟨same ▸ wellFormed.ascending, same ▸ wellFormed.typed⟩

theorem Candidate.Covers.wellFormed {points : List DecisionPoint} {c : Candidate}
    (covers : c.Covers points) (ascending : Sorted.Ascending DecisionPoint.order points) :
    c.WellFormed :=
  ⟨ascendingPoints.mpr (covers.points ▸ ascending), covers.typed⟩

namespace Search

variable {ω : Type} {s : Search}

theorem loadedSource {files : Files} {path : Option String} {k : KnowledgeBase}
    (ok : loadKnowledge files path = .ok k) :
    Sorted.Ascending Candidate.order k.candidates ∧ ∀ c ∈ k.candidates, c.WellFormed := by
  cases path with
  | none =>
    cases ok
    exact ⟨List.Pairwise.nil, List.forall_mem_nil _⟩
  | some path =>
    rw [loadKnowledge] at ok
    split at ok
    · split at ok
      · exact KnowledgeBase.loadSource (Checked.mapErrorOk.mp ok)
      · contradiction
    · cases ok
      exact ⟨List.Pairwise.nil, List.forall_mem_nil _⟩

theorem loadSavedFile {k : KnowledgeBase} (wellFormed : k.WellFormed) (storable : k.Storable) :
    loadKnowledge (fileWith k.save) (some "kb") = .ok k :=
  loadFile (congrArg Except.toOption
    ((KnowledgeBase.loadExact wellFormed k).mpr ⟨storable, rfl⟩))

theorem selectPoolWithin (wellFormed : ∀ c ∈ s.knowledge.candidates, c.WellFormed)
    {pool : List Candidate} {random rest : Random}
    (ran : s.selectPool.run.run random = (.ok pool, rest)) : ∀ c ∈ pool, c.Within s.points := by
  intro c mem
  rcases selectPoolSource ran c mem with rfl | ⟨old, inside, rfl | ⟨before, n, after, evolved⟩⟩
  · exact ⟨List.Pairwise.nil, List.forall_mem_nil _, List.forall_mem_nil _⟩
  · exact Candidate.retainWithin (wellFormed old inside)
  · have within : ((s.evolveElite old).run before).1.1.Within s.points :=
      (Candidate.retainWithin (wellFormed old inside)).evolve before
    rw [evolved] at within
    exact within

/-- What a search keeps: its generations are not empty, its points are those of a checked catalog,
and what it knows is well-formed. -/
structure Sound (s : Search) : Prop where
  number : s.config.candidatesNumber ≠ 0
  catalog : ∃ catalog : Catalog, catalog.validate = .ok () ∧
    s.points = catalog.decisionPoints s.config.parameterized
  knowledge : ∀ c ∈ s.knowledge.candidates, c.WellFormed

theorem Sound.ascending (sound : s.Sound) : Sorted.Ascending DecisionPoint.order s.points := by
  obtain ⟨catalog, _, same⟩ := sound.catalog
  rw [same]
  exact DecisionPoint.collectAscending _

theorem drawPoolCovers (sound : s.Sound) {pool : List Candidate} {rest : Random}
    (ran : s.drawPool.run.run s.random = (.ok pool, rest)) :
    pool ≠ [] ∧ ∀ c ∈ pool, c.Covers s.points := by
  refine ⟨drawPoolFilled sound.number ran, fun c mem => ?_⟩
  obtain ⟨selected, moved, drawn, completed⟩ := Gen.bindOk ran
  obtain ⟨gaps, inside, before, after, filled⟩ := (completeAllSource completed).2.1 c mem
  obtain ⟨n, filled⟩ := completeSource filled
  exact Candidate.generateMissingCovers sound.ascending
    (selectPoolWithin sound.knowledge drawn gaps inside) filled

theorem stepCovers {oracle : Oracle ω} (sound : s.Sound) {s' : Search} {ranking : Ranking}
    {w w' : ω} (step : (s.step oracle).run w = ((.ok ranking, s'), w')) :
    ranking.entries ≠ [] ∧ ∀ e ∈ ranking.entries, e.candidate.Covers s.points := by
  obtain ⟨pool, random, ran, candidates⟩ := stepPool step
  obtain ⟨filled, covers⟩ := drawPoolCovers sound ran
  constructor
  · rintro none
    rw [none] at candidates
    exact filled candidates.nil_eq.symm
  · intro e mem
    exact covers _ (candidates.mem_iff.mp (List.mem_map_of_mem mem))

/-- If what fits the active points of the best known candidate covers them, it is evaluated,
whatever is drawn. -/
theorem stepRetains {oracle : Oracle ω} {best : Candidate} {others : List Candidate}
    (ranked : s.knowledge.ranked = best :: others)
    (covers : (best.retain s.points).1.Covers s.points) {s' : Search} {ranking : Ranking}
    {w w' : ω} (step : (s.step oracle).run w = ((.ok ranking, s'), w')) :
    ∃ e ∈ ranking.entries, e.candidate = (best.retain s.points).1 := by
  obtain ⟨pool, random, drawn, candidates⟩ := stepPool step
  obtain ⟨selected, moved, selection, completed⟩ := Gen.bindOk drawn
  rw [selectPool, ranked] at selection
  obtain ⟨elites, last, _, selection⟩ := Gen.bindOk selection
  cases selection
  obtain ⟨filled, carried, before, after, completion⟩ := (completeAllSource completed).2.2
    (best.retain s.points).1 (List.mem_append_right _ List.mem_cons_self)
  rw [completeRun, Candidate.generateMissingFull covers.points] at completion
  cases completion
  obtain ⟨e, mem, same⟩ := List.mem_map.mp (candidates.mem_iff.mpr carried)
  exact ⟨e, mem, same⟩

theorem stepSize {oracle : Oracle ω} {s' : Search} {ranking : Ranking} {w w' : ω}
    (step : (s.step oracle).run w = ((.ok ranking, s'), w')) :
    ranking.size = if s.knowledge.size = 0 then s.config.candidatesNumber
      else min s.config.candidatesNumber s.knowledge.size + 1 := by
  obtain ⟨pool, random, drawn, candidates⟩ := stepPool step
  obtain ⟨selected, moved, selection, completed⟩ := Gen.bindOk drawn
  rw [← selectPoolLength selection, ← (completeAllSource completed).1, ← candidates.length_eq,
    List.length_map, Ranking.size]

theorem stepSound {oracle : Oracle ω} (sound : s.Sound) {s' : Search} {result} {w w' : ω}
    (step : (s.step oracle).run w = ((result, s'), w')) : s'.Sound := by
  obtain ⟨config, points, _⟩ := stepKeeps step
  refine ⟨config ▸ sound.number, by rw [config, points]; exact sound.catalog, ?_⟩
  cases result with
  | error e =>
    rw [stepRefused step]
    exact sound.knowledge
  | ok ranking =>
    rw [stepTaken step]
    intro c mem
    rcases KnowledgeBase.recordAllSource mem with ⟨old, known, same⟩ | ⟨e, ranked, same⟩
    · exact (sound.knowledge old known).sameEntries same
    · exact (((stepCovers sound step).2 e ranked).wellFormed sound.ascending).sameEntries same

theorem reachableSound {features} {oracle : Oracle ω} (reachable : Reachable features oracle s) :
    s.Sound := by
  induction reachable with
  | started start =>
    have source := startSource start
    refine ⟨?_, ⟨_, source.checked, ?_⟩, (loadedSource source.knowledge).2⟩
    · rw [source.settings]
      exact SearchConfig.validNumber source.valid
    · rw [source.points, source.settings]
  | reseeded random before ih => exact ⟨ih.number, ih.catalog, ih.knowledge⟩
  | stepped before step ih => exact stepSound ih step

theorem rankingCovers {features} {oracle : Oracle ω} {s' : Search} {ranking : Ranking} {w w' : ω}
    (reachable : Reachable features oracle s)
    (step : (s.step oracle).run w = ((.ok ranking, s'), w')) :
    (∃ catalog : Catalog, catalog.validate = .ok () ∧
      s.points = catalog.decisionPoints s.config.parameterized) ∧
    (s.points.map DecisionPoint.name).Nodup ∧ ranking.entries ≠ [] ∧
      ∀ e ∈ ranking.entries, e.candidate.Covers s.points := by
  have sound := reachableSound reachable
  exact ⟨sound.catalog, DecisionPoint.namesDistinct sound.ascending, stepCovers sound step⟩

/-! A base saved when the argument was a float, with an entry for an optimization that is gone. -/

def staleBase : KnowledgeBase :=
  ⟨[⟨[(⟨"dce", .bool⟩, .literal (.bool true)), (⟨"old", .bool⟩, .literal (.bool true)),
      (⟨"~dce.0", .float⟩, .literal (.float .two))], .two, 1⟩]⟩

def staleConfig : SearchConfig :=
  { SearchConfig.default with
    candidatesNumber := 1
    evolveProbability := .one
    maxFormulaDepth := 0
    parameterized := true
    knowledgeBase := some "kb" }

def staleSearch : Search :=
  ⟨staleConfig, [⟨"dce", .bool⟩, ⟨"~dce.0", .int⟩], FeatureSet.empty, staleBase, ⟨0⟩, .one, .empty,
    []⟩

theorem staleReachable : Reachable FeatureSet.empty.source halving staleSearch := by
  have loaded : loadKnowledge (fileWith staleBase.save) staleConfig.knowledgeBase =
      .ok staleBase :=
    loadSavedFile ⟨by decide, by decide +kernel, by decide⟩ ⟨by decide, by decide, by decide⟩
  have start : (start staleConfig ⟨[⟨"dce", [⟨"n", .int⟩]⟩]⟩ FeatureSet.empty
      (fileWith staleBase.save) halving).run () = (.ok staleSearch, ()) := by
    rw [Search.start, prepareOk rfl rfl rfl loaded]
    rfl
  exact .started start

theorem rankingCoversStale : ∃ ranking s',
    (staleSearch.step halving).run () = ((.ok ranking, s'), ()) ∧ ranking.entries ≠ [] ∧
      ∀ e ∈ ranking.entries, e.candidate.Covers [⟨"dce", .bool⟩, ⟨"~dce.0", .int⟩] := by
  have drawn : ((staleSearch.step halving).run ()).1.1.isOk := by decide +kernel
  rcases step : (staleSearch.step halving).run () with ⟨⟨result, s'⟩, _⟩
  rw [step] at drawn
  cases result with
  | error e => contradiction
  | ok ranking => exact ⟨ranking, s', rfl, (rankingCovers staleReachable step).2.2⟩

end Search

end PassTuner

import PassTuner.Proofs.Knowledge.Accounting
import PassTuner.Proofs.Ranking
import PassTuner.Proofs.Search.Reachable
import PassTuner.Proofs.Search.Scoring

/-! A generation accounts for each of its evaluations once.

The fitness of an evaluation is a finite quotient or the fallback of the settings, which an
accepted start has checked, so that recording ignores none. What a generation adds to the standing
of a candidate is therefore exactly what its ranking holds for that candidate, in rank order. -/
namespace PassTuner
open KnowledgeBase

variable {ω : Type}

namespace Search

/-- A generation evaluates each candidate that was drawn for it, in some order. -/
theorem stepPool {oracle : Oracle ω} {s s' : Search} {ranking : Ranking} {w w' : ω}
    (step : (s.step oracle).run w = ((.ok ranking, s'), w')) :
    ∃ pool random, s.drawPool.run.run s.random = (.ok pool, random) ∧
      (ranking.entries.map Evaluation.candidate).Perm pool := by
  obtain ⟨pool, random, ran, rfl, _⟩ := stepEvaluates step
  refine ⟨pool, random, ran, ?_⟩
  have candidates : ((s.scoring.evaluateAll s.features oracle pool).run w).1.map
      Evaluation.candidate = pool := Scoring.evaluateAllCandidates
  have ranked := (Sorted.sortPerm Evaluation.order
    ((s.scoring.evaluateAll s.features oracle pool).run w).1).map Evaluation.candidate
  rwa [candidates] at ranked

theorem absorbRanking (s : Search) (ranking : Ranking) :
    (s.absorb ranking).ranking.entries.Perm (s.ranking.entries ++ ranking.entries) :=
  Sorted.sortPerm _ _

theorem stepRanked {oracle : Oracle ω} {s s' : Search} {ranking : Ranking} {w w' : ω}
    (step : (s.step oracle).run w = ((.ok ranking, s'), w')) {e : Evaluation} :
    e ∈ s'.ranking.entries ↔ e ∈ s.ranking.entries ∨ e ∈ ranking.entries := by
  obtain ⟨_, random, _, _, rfl⟩ := stepEvaluates step
  rw [(absorbRanking _ ranking).mem_iff, List.mem_append]

/-- The summary of a generation tells of its best evaluation. -/
theorem stepBest {oracle : Oracle ω} {s s' : Search} {ranking : Ranking} {w w' : ω}
    (k : KnowledgeBase) (filled : ranking.entries ≠ [])
    (step : (s.step oracle).run w = ((.ok ranking, s'), w')) :
    ∃ best ∈ ranking.entries, (s.summarize k ranking).bestFitness = best.fitness ∧
      ∀ e ∈ ranking.entries, (e.fitness.totalCompare best.fitness).isLE := by
  obtain ⟨best, others, entries⟩ := List.exists_cons_of_ne_nil filled
  have first : ranking.best? = some best := by rw [Ranking.best?, entries, List.head?_cons]
  have told : (s.summarize k ranking).bestFitness = best.fitness := by rw [summarize, first]
  obtain ⟨_, _, _, rfl, _⟩ := stepEvaluates step
  obtain ⟨mem, highest⟩ := Ranking.bestFirst first
  exact ⟨best, Ranking.mem.mpr mem, told, fun e inside => highest e (Ranking.mem.mp inside)⟩

theorem stepGrows {oracle : Oracle ω} {s s' : Search} {ranking : Ranking} {w w' : ω}
    (step : (s.step oracle).run w = ((.ok ranking, s'), w')) :
    s'.ranking.size = s.ranking.size + ranking.size := by
  obtain ⟨_, random, _, _, rfl⟩ := stepEvaluates step
  exact (absorbRanking _ ranking).length_eq.trans List.length_append

theorem stepFinite {features} {oracle : Oracle ω} {s s' : Search} {ranking} {w w' : ω}
    (reachable : Reachable features oracle s)
    (step : (s.step oracle).run w = ((.ok ranking, s'), w')) :
    s'.knowledge = s.knowledge.recordAll ranking.entries ∧
      ∀ e ∈ ranking.entries, e.fitness.isFinite := by
  refine ⟨stepTaken step, fun e mem => ?_⟩
  have fallback := SearchConfig.validFallback (reachableConfig reachable)
  obtain ⟨pool, _, _, rfl, _⟩ := stepEvaluates step
  have finite : ∀ e ∈ ((s.scoring.evaluateAll s.features oracle pool).run w).1,
      e.fitness.isFinite := Scoring.evaluateAllFinite fallback
  exact finite e (Ranking.mem.mp mem)

theorem stepAccounts {features} {oracle : Oracle ω} {s s' : Search} {ranking} {w w' : ω}
    (reachable : Reachable features oracle s)
    (step : (s.step oracle).run w = ((.ok ranking, s'), w')) :
    (∀ e ∈ ranking.entries, e.fitness.isFinite) ∧
      ∀ c, Accounted s.knowledge s'.knowledge ranking.entries c := by
  obtain ⟨taken, finite⟩ := stepFinite reachable step
  rw [taken]
  exact ⟨finite, fun c => recordAllAccounted s.knowledge c finite⟩

def leafConfig : SearchConfig :=
  { SearchConfig.default with candidatesNumber := 2, maxFormulaDepth := 0 }

def halving : Oracle Unit := ⟨pure (.ok .one), fun _ => pure (.ok .two)⟩

def leafSearch : Search :=
  ⟨leafConfig, [⟨"dce", .bool⟩], FeatureSet.empty, .empty, ⟨0⟩, .one, .empty, []⟩

theorem leafStart : (start leafConfig ⟨[⟨"dce", []⟩]⟩ FeatureSet.empty ⟨[]⟩ halving).run () =
    (.ok leafSearch, ()) := rfl

theorem leafReachable : Reachable FeatureSet.empty.source halving leafSearch :=
  .started leafStart

/-- Both candidates of this generation have the same content. -/
theorem stepAccountsAlike : ∃ ranking s',
    (leafSearch.step halving).run () = ((.ok ranking, s'), ()) ∧
      (∀ e ∈ ranking.entries, e.fitness.isFinite) ∧
      ∀ c, Accounted leafSearch.knowledge s'.knowledge ranking.entries c := by
  have drawn : ((leafSearch.step halving).run ()).1.1.isOk := by decide +kernel
  rcases step : (leafSearch.step halving).run () with ⟨⟨result, s'⟩, _⟩
  rw [step] at drawn
  cases result with
  | error e => contradiction
  | ok ranking => exact ⟨ranking, s', rfl, stepAccounts leafReachable step⟩

end Search

end PassTuner

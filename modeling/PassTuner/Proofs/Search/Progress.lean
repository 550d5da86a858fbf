import PassTuner.Knowledge.Stored
import PassTuner.Proofs.Catalog
import PassTuner.Proofs.Search.Completeness
import PassTuner.Search.Outcome

/-! How a search can end.

A generation fails exactly if a formula that it mutates meets a string, and a run then ends with
it. Strings come from stored candidates alone: where nothing that fits the active points holds
one, every generation succeeds and leaves it so, and a run makes all its generations. -/
namespace PassTuner
open Formula (MeetsString Verdict)

variable {ω : Type} {oracle : Oracle ω}

namespace Search

variable {features : FeatureSource} {s s' : Search} {w w' : ω}

theorem reachablePoints (reachable : Reachable features oracle s) :
    ∀ point ∈ s.points, point.type ≠ .string := by
  obtain ⟨catalog, checked, same⟩ := (reachableSound reachable).catalog
  rw [same]
  exact Catalog.pointsDrawable checked _

theorem reachableDraws (set : FeatureSet) (reachable : Reachable set.source oracle s) :
    s.features.Indexed ∧ ∀ point ∈ s.points, point.type ≠ .string := by
  refine ⟨?_, reachablePoints reachable⟩
  rw [reachableFeatures reachable]
  exact set.sourceIndexed

theorem stepVerdict (indexed : s.features.Indexed)
    (drawable : ∀ point ∈ s.points, point.type ≠ .string) (w : ω) :
    Verdict s.config.mutationProbability s.evolutions ((s.step oracle).run w).1.1 := by
  have verdict := drawPoolVerdict indexed drawable
  rcases step : (s.step oracle).run w with ⟨⟨result, s'⟩, w'⟩
  obtain ⟨drawn, random, drawing, cases⟩ := stepCases step
  rw [drawing] at verdict
  cases verdict with
  | refused mem meets =>
    obtain ⟨rfl, _, _⟩ := cases
    exact .refused mem meets
  | went free =>
    obtain ⟨evaluations, _, rfl, _⟩ := cases
    exact .went free

theorem absorbStringless {ranking : Ranking} (stringless : s.Stringless)
    (ranked : ∀ e ∈ ranking.entries, e.candidate.Stringless) : (s.absorb ranking).Stringless := by
  intro c mem
  rcases KnowledgeBase.recordAllSource mem with ⟨old, inside, same⟩ | ⟨e, inside, same⟩
  · intro entry kept
    have known := stringless old inside entry
    simp only [Candidate.retain, ← same] at known
    exact known kept
  · intro entry kept
    have mem := (List.mem_filter.mp kept).1
    rw [same] at mem
    exact ranked e inside entry mem

theorem stepStringless (indexed : s.features.Indexed) {ranking}
    (step : (s.step oracle).run w = ((.ok ranking, s'), w')) (stringless : s.Stringless) :
    s'.Stringless := by
  obtain ⟨pool, random, drawing, candidates⟩ := stepPool step
  obtain ⟨_, random, _, _, rfl⟩ := stepEvaluates step
  refine absorbStringless stringless fun e mem => ?_
  have drawn := drawPoolAll (Formula.hereditaryStringless indexed) stringless drawing
  exact drawn e.candidate (candidates.mem_iff.mp (List.mem_map_of_mem mem))

/-- So many generations, all of which succeed. -/
inductive Makes (oracle : Oracle ω) : Nat → Search → ω → Search → ω → Prop
  | none (s : Search) (w : ω) : Makes oracle 0 s w s w
  | more {n : Nat} {s s' last : Search} {w w' after : ω} {ranking : Ranking}
      (step : (s.step oracle).run w = ((.ok ranking, s'), w'))
      (others : Makes oracle n s' w' last after) : Makes oracle (n + 1) s w last after

theorem makesScoring {n : Nat} (makes : Makes oracle n s w s' w') : s'.scoring = s.scoring := by
  induction makes with
  | none s w => rfl
  | more step others ih => exact ih.trans (stepScoring step)

theorem makesHistory {n : Nat} (makes : Makes oracle n s w s' w') :
    s'.history.length = s.history.length + n := by
  induction makes with
  | none s w => rfl
  | more step others ih =>
    rw [ih, stepHistory step]
    exact Nat.add_right_comm _ _ _

theorem stringlessFree (stringless : s.Stringless) (p : Double) :
    ∀ call ∈ s.evolutions, ¬ MeetsString p call.1 call.2 := by
  intro call mem
  obtain ⟨c, known, entry, kept, same⟩ := evolutionsSource call mem
  rw [same]
  exact (stringless c known entry kept).notMeets

theorem stringlessStep (set : FeatureSet) (reachable : Reachable set.source oracle s)
    (stringless : s.Stringless) (w : ω) :
    ∃ ranking s' w', (s.step oracle).run w = ((.ok ranking, s'), w') ∧ s'.Stringless := by
  obtain ⟨indexed, drawable⟩ := reachableDraws set reachable
  have verdict : Verdict _ _ ((s.step oracle).run w).1.1 := stepVerdict indexed drawable w
  rcases step : (s.step oracle).run w with ⟨⟨result, s'⟩, w'⟩
  rw [step] at verdict
  cases verdict with
  | refused mem meets => exact absurd meets (stringlessFree stringless _ _ mem)
  | went free =>
    exact ⟨_, s', w', rfl, stepStringless indexed step stringless⟩

/-- Without strings there are as many generations as one likes. -/
theorem stringlessMakes (set : FeatureSet) (reachable : Reachable set.source oracle s)
    (stringless : s.Stringless) (n : Nat) (w : ω) :
    ∃ last after, Makes oracle n s w last after := by
  induction n generalizing s w with
  | zero => exact ⟨s, w, .none s w⟩
  | succ n ih =>
    obtain ⟨ranking, s', w', step, kept⟩ := stringlessStep set reachable stringless w
    obtain ⟨last, after, others⟩ := ih (.stepped reachable step) kept w'
    exact ⟨last, after, .more step others⟩

end Search

end PassTuner

import PassTuner.Proofs.Knowledge.Arrival
import PassTuner.Proofs.Search.Completeness
import PassTuner.Proofs.Search.Course

/-! The books of a search, and what it reports at its end.

History, ranking and knowledge are written by each generation that is made and by nothing else.
`Books` holds them against the course of the search, `Tallied` against each other; from both
follows what the outcome tells of the best candidate. -/
namespace PassTuner
open Std
open KnowledgeBase (fitnessOf)

namespace Search

variable {ω : Type} {oracle : Oracle ω} {features : FeatureSource} {first last s s' : Search}
variable {made : List Generation} {ranking : Ranking} {w w' : ω}

theorem extendRanked (evaluations : List Evaluation) (ranking : Ranking) :
    (Ranking.ofList evaluations).extend ranking = .ofList (evaluations ++ ranking.entries) :=
  congrArg Ranking.mk (Sorted.sortAgain evaluations ranking.entries)

theorem stepBooks (step : (s.step oracle).run w = ((.ok ranking, s'), w')) :
    s'.history = s.history ++ [s.summarize s'.knowledge ranking] ∧
      s'.ranking = s.ranking.extend ranking ∧ s.knowledge.size ≤ s'.knowledge.size := by
  obtain ⟨_, random, _, _, rfl⟩ := stepEvaluates step
  exact ⟨rfl, rfl, KnowledgeBase.recordAllSize _ _⟩

structure Books (first : Search) (made : List Generation) (s : Search) : Prop where
  numbers : s.history.map GenerationSummary.generation = List.range made.length
  pools : s.history.map GenerationSummary.pool = made.map fun g =>
    if g.before.knowledge.size = 0 then first.config.candidatesNumber
    else min first.config.candidatesNumber g.before.knowledge.size + 1
  sizes : first.knowledge.size :: s.history.map GenerationSummary.knowledgeSize =
    made.map (fun g => g.before.knowledge.size) ++ [s.knowledge.size]
  grows : (first.knowledge.size :: s.history.map GenerationSummary.knowledgeSize).Pairwise (· ≤ ·)
  ranking : s.ranking = .ofList (made.flatMap fun g => g.ranking.entries)
  total : s.ranking.size = (s.history.map GenerationSummary.pool).foldl (· + ·) 0

theorem Books.begin (history : first.history = []) (ranking : first.ranking = .empty) :
    Books first [] first := by
  constructor
  · rw [history]; rfl
  · rw [history]; rfl
  · rw [history]; rfl
  · rw [history]; exact List.pairwise_singleton _ _
  · rw [ranking, Ranking.ofList, List.flatMap_nil, Sorted.sort, List.mergeSort_nil]; rfl
  · rw [ranking, history]; rfl

theorem Books.step (books : Books first made s) (settings : s.config = first.config)
    (step : (s.step oracle).run w = ((.ok ranking, s'), w')) :
    Books first (made ++ [⟨s, ranking⟩]) s' := by
  obtain ⟨history, ranked, larger⟩ := stepBooks step
  have length : s.history.length = made.length := by
    simpa using congrArg List.length books.numbers
  have pool := stepSize step
  rw [settings] at pool
  constructor
  · rw [history, List.map_append, books.numbers, List.length_append, List.length_singleton,
      List.range_succ, ← length]
    rfl
  · rw [history, List.map_append, books.pools, List.map_append, List.map_singleton,
      List.map_singleton, ← pool]
    rfl
  · rw [history, List.map_append, ← List.cons_append, books.sizes, List.map_append]
    rfl
  · rw [history, List.map_append, ← List.cons_append]
    refine List.pairwise_append.mpr ⟨books.grows, List.pairwise_singleton _ _, ?_⟩
    intro before mem after new
    cases List.mem_singleton.mp new
    -- sizes so far end with the size before this generation, and none of them is larger
    have grows := books.grows
    rw [books.sizes] at mem grows
    have below : before ≤ s.knowledge.size := by
      rcases List.mem_append.mp mem with old | here
      · exact (List.pairwise_append.mp grows).2.2 before old _ (List.mem_singleton_self _)
      · exact Nat.le_of_eq (List.mem_singleton.mp here)
    exact Nat.le_trans below larger
  · rw [ranked, books.ranking, extendRanked, List.flatMap_append, List.flatMap_singleton]
  · rw [stepGrows step, books.total, history, List.map_append, List.foldl_append]
    rfl

theorem Course.books (course : Course oracle first made last) (history : first.history = [])
    (ranking : first.ranking = .empty) : Books first made last :=
  course.keeps (.begin history ranking)
    (fun _ _ _ books =>
      ⟨books.numbers, books.pools, books.sizes, books.grows, books.ranking, books.total⟩)
    fun _ _ _ _ _ _ before books step => books.step before.configKept step

/-- How what has been evaluated shows in the knowledge and in the history. -/
structure Tallied (s : Search) : Prop where
  covers : ∀ e ∈ s.ranking.entries, e.candidate.Covers s.points
  observed : ∀ e ∈ s.ranking.entries, 1 ≤ (s.knowledge.standing e.candidate).2
  summarized : ∀ e ∈ s.ranking.entries, ∃ summary ∈ s.history,
    (e.fitness.totalCompare summary.bestFitness).isLE
  evaluated : ∀ summary ∈ s.history, ∃ e ∈ s.ranking.entries, e.fitness = summary.bestFitness

theorem Tallied.begin (history : s.history = []) (ranking : s.ranking = .empty) : s.Tallied := by
  constructor
  · rw [ranking]; exact List.forall_mem_nil _
  · rw [ranking]; exact List.forall_mem_nil _
  · rw [ranking]; exact List.forall_mem_nil _
  · rw [history]; exact List.forall_mem_nil _

theorem Tallied.step (tallied : s.Tallied) (reachable : Reachable features oracle s)
    (step : (s.step oracle).run w = ((.ok ranking, s'), w')) : s'.Tallied := by
  obtain ⟨filled, covers⟩ := stepCovers (reachableSound reachable) step
  obtain ⟨taken, finite⟩ := stepFinite reachable step
  obtain ⟨best, ranked, told, highest⟩ := stepBest s'.knowledge filled step
  obtain ⟨history, _, _⟩ := stepBooks step
  have entries {e : Evaluation} : e ∈ s'.ranking.entries ↔
      e ∈ s.ranking.entries ∨ e ∈ ranking.entries := stepRanked step
  have summaries {summary : GenerationSummary} : summary ∈ s'.history ↔
      summary ∈ s.history ∨ summary = s.summarize s'.knowledge ranking := by
    rw [history, List.mem_append, List.mem_singleton]
  constructor
  · intro e mem
    rw [(stepKeeps step).2.1]
    exact (entries.mp mem).elim (tallied.covers e) (covers e)
  · intro e mem
    rw [taken, (KnowledgeBase.recordAllAccounted s.knowledge e.candidate finite).count]
    rcases entries.mp mem with old | new
    · exact Nat.le_add_right_of_le (tallied.observed e old)
    · have once : 0 < (fitnessOf e.candidate ranking.entries).length :=
        List.length_pos_of_mem (KnowledgeBase.fitnessOfSelf new)
      exact Nat.le_add_left_of_le once
  · intro e mem
    rcases entries.mp mem with old | new
    · obtain ⟨summary, inside, above⟩ := tallied.summarized e old
      exact ⟨summary, summaries.mpr (.inl inside), above⟩
    · exact ⟨_, summaries.mpr (.inr rfl), told ▸ highest e new⟩
  · intro summary mem
    rcases summaries.mp mem with old | rfl
    · obtain ⟨e, inside, same⟩ := tallied.evaluated summary old
      exact ⟨e, entries.mpr (.inl inside), same⟩
    · exact ⟨best, entries.mpr (.inr ranked), told.symm⟩

theorem Course.tallied (course : Course oracle first made last)
    (reachable : Reachable features oracle first) (begins : first.Tallied) : last.Tallied :=
  course.keeps (motive := fun _ s => s.Tallied) begins
    (fun _ _ _ tallied =>
      ⟨tallied.covers, tallied.observed, tallied.summarized, tallied.evaluated⟩)
    fun _ _ _ _ _ _ before tallied step => tallied.step (before.reachable reachable) step

end Search

end PassTuner

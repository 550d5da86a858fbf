import PassTuner.Proofs.Candidate.Score
import PassTuner.Proofs.Ranking
import PassTuner.Proofs.Search.Completeness
import PassTuner.Proofs.Search.Progress

/-! The best of a generation against the best before it.

The best known candidate enters every generation as it is. It is known by its score, which is a
running mean. Where the oracle answers by the decisions alone a candidate has one worth, and its
score is the mean of that worth with itself, so that no generation falls behind an earlier one
while such means stay at their value. Arithmetic alone does not keep them there. -/
namespace PassTuner
open Std
open Candidate (steadyMean HoldsMean)
open KnowledgeBase (fitnessOf takeIn)

variable {ω : Type}

theorem KnowledgeBase.takeInSteady (fitness : Double) (n k : Nat) :
    (List.replicate k fitness).foldl takeIn (steadyMean fitness n, n) =
      (steadyMean fitness (n + k), n + k) := by
  induction k generalizing n with
  | zero => rfl
  | succ k ih =>
    rw [List.replicate_succ, List.foldl_cons]
    refine (ih (n + 1)).trans ?_
    rw [Nat.add_right_comm, Nat.add_assoc]

namespace Search

variable {features : FeatureSource} {oracle : Oracle ω} {outcome : Decisions → Cost}
variable {s s' : Search} {w w' : ω}

/-- The best known candidate is evaluated as it is, whatever is drawn. -/
theorem stepCarries (sound : s.Sound) {best : Candidate} {others : List Candidate}
    (ranked : s.knowledge.ranked = best :: others) (covers : best.Covers s.points)
    {ranking : Ranking} (step : (s.step oracle).run w = ((.ok ranking, s'), w')) :
    ∃ e ∈ ranking.entries, e.candidate = best := by
  have kept : (best.retain s.points).1 = best := Candidate.retainCovering sound.ascending covers
  rw [← kept] at covers ⊢
  exact stepRetains ranked covers step

/-- The fitness that a candidate is given whenever it is evaluated. -/
def worth (s : Search) (outcome : Decisions → Cost) (c : Candidate) : Double :=
  s.scoring.worth s.features outcome c

theorem stepWorth (answers : oracle.Answers outcome) {ranking : Ranking}
    (step : (s.step oracle).run w = ((.ok ranking, s'), w')) :
    ∀ e ∈ ranking.entries, e.fitness = s.worth outcome e.candidate := by
  obtain ⟨pool, _, _, rfl, _⟩ := stepEvaluates step
  have each : ∀ e ∈ ((s.scoring.evaluateAll s.features oracle pool).run w).1,
      e.fitness = s.worth outcome e.candidate := Scoring.evaluateAllWorth answers
  exact fun e mem => each e (Sorted.sortMem.mp mem)

/-- How often a candidate has been evaluated. -/
def observations (s : Search) (c : Candidate) : Nat := (fitnessOf c s.ranking.entries).length

/-- What a search knows after it has begun with nothing: the candidates that it has evaluated,
each with the mean of its worth. -/
structure Measured (outcome : Decisions → Cost) (s : Search) : Prop where
  fitness : ∀ e ∈ s.ranking.entries, e.fitness = s.worth outcome e.candidate
  standing : ∀ c, s.knowledge.standing c =
    (steadyMean (s.worth outcome c) (s.observations c), s.observations c)
  evaluated : ∀ c ∈ s.knowledge.candidates, ∃ e ∈ s.ranking.entries, c.order e.candidate = .eq
  known : ∀ e ∈ s.ranking.entries, s.knowledge.has e.candidate
  ascending : Sorted.Ascending Candidate.order s.knowledge.candidates
  covers : ∀ c ∈ s.knowledge.candidates, c.Covers s.points
  history : ∀ summary ∈ s.history, ∃ e ∈ s.ranking.entries, e.fitness = summary.bestFitness

/-- Whether no candidate has a score away from its fitness, at any time so far. -/
def Held (s : Search) : Prop :=
  ∀ e ∈ s.ranking.entries, HoldsMean e.fitness (s.observations e.candidate)

theorem observedSome {e : Evaluation} (mem : e ∈ s.ranking.entries) :
    0 < s.observations e.candidate := by
  exact List.length_pos_of_mem (KnowledgeBase.fitnessOfSelf mem)

theorem absorbObservations (s : Search) (ranking : Ranking) (c : Candidate) :
    (s.absorb ranking).observations c =
      s.observations c + (fitnessOf c ranking.entries).length := by
  have same := (KnowledgeBase.fitnessOfPerm c (absorbRanking s ranking)).length_eq
  rwa [KnowledgeBase.fitnessOfAppend, List.length_append] at same

theorem fitnessOfWorth {evaluations : List Evaluation}
    (worth : ∀ e ∈ evaluations, e.fitness = s.worth outcome e.candidate) (c : Candidate) :
    fitnessOf c evaluations =
      List.replicate (fitnessOf c evaluations).length (s.worth outcome c) := by
  refine List.eq_replicate_iff.mpr ⟨rfl, fun fitness mem => ?_⟩
  obtain ⟨e, inside, rfl⟩ := List.mem_map.mp mem
  obtain ⟨inside, same⟩ := List.mem_filter.mp inside
  exact (worth e inside).trans (Scoring.worthSame (eq_of_beq same)).symm

theorem heldBefore {ranking : Ranking} (held : (s.absorb ranking).Held) : s.Held := by
  intro e mem
  have later : e ∈ (s.absorb ranking).ranking.entries :=
    (absorbRanking s ranking).mem_iff.mpr (List.mem_append_left _ mem)
  refine (held e later).fewer ?_
  rw [absorbObservations]
  exact Nat.le_add_right _ _

namespace Measured

theorem worthOf (measured : s.Measured outcome) {e : Evaluation} (mem : e ∈ s.ranking.entries)
    {c : Candidate} (same : c.order e.candidate = .eq) : s.worth outcome c = e.fitness :=
  (Scoring.worthSame same).trans (measured.fitness e mem).symm

theorem scoreKey (measured : s.Measured outcome) (held : s.Held) {c : Candidate}
    (mem : c ∈ s.knowledge.candidates) :
    c.score.numericKey = (s.worth outcome c).numericKey := by
  obtain ⟨e, inside, same⟩ := measured.evaluated c mem
  have standing := (KnowledgeBase.memberStanding measured.ascending mem).symm.trans
    (measured.standing c)
  have alike : s.observations c = s.observations e.candidate :=
    congrArg List.length (KnowledgeBase.fitnessOfAlike same _)
  rw [measured.worthOf inside same, alike] at standing
  rw [measured.worthOf inside same, (Prod.mk.inj standing).1]
  exact held e inside _ (observedSome inside) (Nat.le_refl _)

/-- Before anything is evaluated nothing is known. -/
theorem start {config catalog features files} (started : Started config catalog features files s)
    (empty : s.knowledge = .empty) : s.Measured outcome := by
  have none : s.ranking.entries = [] := congrArg Ranking.entries started.ranking
  have unseen (c : Candidate) : s.observations c = 0 := by rw [observations, none]; rfl
  refine ⟨?_, fun c => ?_, ?_, ?_, ?_, ?_, ?_⟩
  · rw [none]; exact List.forall_mem_nil _
  · rw [empty, unseen]; rfl
  · rw [empty]; exact List.forall_mem_nil _
  · rw [none]; exact List.forall_mem_nil _
  · rw [empty]; exact List.Pairwise.nil
  · rw [empty]; exact List.forall_mem_nil _
  · rw [started.history]; exact List.forall_mem_nil _

theorem step (measured : s.Measured outcome) (sound : s.Sound) (answers : oracle.Answers outcome)
    {ranking : Ranking} (finite : ∀ e ∈ ranking.entries, e.fitness.isFinite)
    (step : (s.step oracle).run w = ((.ok ranking, s'), w')) : s'.Measured outcome := by
  have worth := stepWorth answers step
  obtain ⟨filled, covers⟩ := stepCovers sound step
  obtain ⟨best, top, told, _⟩ := stepBest s'.knowledge filled step
  have ranked {e : Evaluation} := stepRanked step (e := e)
  obtain ⟨_, random, _, _, rfl⟩ := stepEvaluates step
  refine ⟨?_, fun c => ?_, fun c mem => ?_, ?_, ?_, fun c mem => ?_, ?_⟩
  · intro e mem
    exact (ranked.mp mem).elim (measured.fitness e) (worth e)
  · have after := KnowledgeBase.recordAllStanding s.knowledge c finite
    rw [measured.standing c, fitnessOfWorth worth c, KnowledgeBase.takeInSteady] at after
    rw [absorbObservations]
    exact after
  · rcases KnowledgeBase.recordAllSource mem with ⟨old, known, same⟩ | ⟨e, inside, same⟩
    · obtain ⟨e, inside, alike⟩ := measured.evaluated old known
      have equal : c.order e.candidate = old.order e.candidate :=
        TransCmp.congr_left (Candidate.orderEntries same)
      exact ⟨e, ranked.mpr (.inl inside), equal.trans alike⟩
    · exact ⟨e, ranked.mpr (.inr inside), Candidate.orderEntries same⟩
  · intro e mem
    have self : e.candidate.order e.candidate = .eq := ReflCmp.compare_self
    refine (KnowledgeBase.recordAllHas s.knowledge e.candidate finite).mpr ?_
    exact (ranked.mp mem).imp (measured.known e) fun inside => ⟨e, inside, self⟩
  · exact KnowledgeBase.recordAllAscending measured.ascending _
  · rcases KnowledgeBase.recordAllSource mem with ⟨old, known, same⟩ | ⟨e, inside, same⟩
    · exact (measured.covers old known).sameEntries same
    · exact (covers e inside).sameEntries same
  · intro summary mem
    rcases List.mem_append.mp mem with old | new
    · obtain ⟨e, inside, same⟩ := measured.history summary old
      exact ⟨e, ranked.mpr (.inl inside), same⟩
    · cases List.mem_singleton.mp new
      exact ⟨best, ranked.mpr (.inr top), told.symm⟩

/-- What has been best before is known, and what is best known is evaluated again. -/
theorem rises (measured : s.Measured outcome) (held : s.Held) (sound : s.Sound)
    (fallback : s.config.fallbackFitness.isFinite) (answers : oracle.Answers outcome)
    {ranking : Ranking} (step : (s.step oracle).run w = ((.ok ranking, s'), w'))
    (k : KnowledgeBase) : ∀ summary ∈ s.history,
      summary.bestFitness.le (s.summarize k ranking).bestFitness := by
  intro summary mem
  obtain ⟨e, inside, earlier⟩ := measured.history summary mem
  obtain ⟨stored, found⟩ := Option.isSome_iff_exists.mp (measured.known e inside)
  have known : stored ∈ s.knowledge.candidates := List.mem_of_find?_eq_some found
  have worthStored : s.worth outcome stored = e.fitness :=
    measured.worthOf inside (OrientedCmp.eq_symm (KnowledgeBase.findSame found))
  obtain ⟨best, others, ranked⟩ := List.exists_cons_of_ne_nil
    (List.ne_nil_of_mem (rankedKnown.mpr known))
  obtain ⟨bestKnown, highest⟩ := KnowledgeBase.rankedFirst ranked
  have worth := stepWorth answers step
  obtain ⟨carried, evaluated, rfl⟩ := stepCarries sound ranked (measured.covers best bestKnown) step
  obtain ⟨top, topMem, topFitness, above⟩ := stepBest k (List.ne_nil_of_mem evaluated) step
  have keys : summary.bestFitness.numericKey ≤ top.fitness.numericKey := by
    calc summary.bestFitness.numericKey = stored.score.numericKey := by
          rw [measured.scoreKey held known, worthStored, earlier]
      _ ≤ carried.candidate.score.numericKey := Double.numericOfTotal (highest stored known)
      _ = carried.fitness.numericKey := by
          rw [measured.scoreKey held bestKnown, worth carried evaluated]
      _ ≤ top.fitness.numericKey :=
          Double.numericOfTotal (above carried evaluated)
  have finite (c : Candidate) : (s.worth outcome c).isFinite := Scoring.worthFinite fallback _ _ c
  have before : summary.bestFitness.isFinite := earlier ▸ measured.fitness e inside ▸ finite _
  have after : top.fitness.isFinite := worth top topMem ▸ finite _
  rw [topFitness]
  exact (Double.leFinite before after).mpr keys

end Measured

/-- In each generation nothing is worse than it has been before. -/
def Rises (s : Search) : Prop :=
  s.history.Pairwise fun before after => before.bestFitness.le after.bestFitness

theorem stepRises (reachable : Reachable features oracle s) (answers : oracle.Answers outcome)
    (measured : s.Measured outcome) (rises : s.Held → s.Rises) {ranking : Ranking}
    (step : (s.step oracle).run w = ((.ok ranking, s'), w')) :
    s'.Measured outcome ∧ (s'.Held → s'.Rises) := by
  have sound := reachableSound reachable
  have fallback := SearchConfig.validFallback (reachableConfig reachable)
  have finite := (stepFinite reachable step).2
  refine ⟨measured.step sound answers finite step, fun held => ?_⟩
  have rise := fun held => measured.rises held sound fallback answers step s'.knowledge
  obtain ⟨_, random, _, _, rfl⟩ := stepEvaluates step
  have before : s.Held := heldBefore held
  refine List.pairwise_append.mpr ⟨rises before, List.pairwise_singleton _ _, ?_⟩
  intro summary mem last new
  cases List.mem_singleton.mp new
  exact rise before summary mem

theorem makesMeasured {n : Nat} (makes : Makes oracle n s w s' w')
    (reachable : Reachable features oracle s) (answers : oracle.Answers outcome)
    (measured : s.Measured outcome) : s'.Measured outcome := by
  induction makes with
  | none s w => exact measured
  | more step others ih =>
    have finite := (stepFinite reachable step).2
    exact ih (.stepped reachable step)
      (measured.step (reachableSound reachable) answers finite step)

theorem makesRises {n : Nat} (makes : Makes oracle n s w s' w')
    (reachable : Reachable features oracle s) (answers : oracle.Answers outcome)
    (measured : s.Measured outcome) (rises : s.Held → s.Rises) : s'.Held → s'.Rises := by
  induction makes with
  | none s w => exact rises
  | more step others ih =>
    obtain ⟨measured, rises⟩ := stepRises reachable answers measured rises step
    exact ih (.stepped reachable step) measured rises

theorem bestFitnessRises {config catalog files} (answers : oracle.Answers outcome)
    {first last : Search} {w₀ w₁ w₂ : ω}
    (start : (start config catalog features files oracle).run w₀ = (.ok first, w₁))
    (empty : first.knowledge = .empty) {n : Nat} (makes : Makes oracle n first w₁ last w₂)
    (held : last.Held) :
    last.history.length = n ∧
      last.history.Pairwise fun before after => before.bestFitness.le after.bestFitness := by
  have started := startSource start
  have measured : first.Measured outcome := .start started empty
  have length := makesHistory makes
  rw [started.history, List.length_nil, Nat.zero_add] at length
  refine ⟨length, makesRises makes (.started start) answers measured (fun _ => ?_) held⟩
  rw [Rises, started.history]
  exact List.Pairwise.nil

theorem makesSize {n : Nat} (makes : Makes oracle n s w s' w')
    (reachable : Reachable features oracle s) :
    s'.ranking.size ≤ s.ranking.size + n * (s.config.candidatesNumber + 1) := by
  induction makes with
  | none s w => exact Nat.le_add_right _ _
  | more step others ih =>
    have later := ih (.stepped reachable step)
    rw [(stepKeeps step).1, stepGrows step, stepSize step] at later
    rw [Nat.succ_mul]
    split at later <;> omega

/-- Where every fitness is so short that its multiples are doubles, the scores stay at it. -/
theorem shortHeld (few : s.ranking.size < 2 * Double.hiddenBit)
    (short : ∀ e ∈ s.ranking.entries, Candidate.Short e.fitness s.ranking.size) : s.Held := by
  intro e mem
  refine ((short e mem).holdsMean few).fewer ?_
  rw [observations, fitnessOf, List.length_map]
  exact List.length_filter_le _ _

/-! Halving the cost is worth one half each time, and what cannot be decided nothing. -/

def half : Double := ⟨0x3fe0000000000000⟩

theorem halvingAnswers : halving.Answers fun _ => .ok .two := fun _ _ => rfl

theorem halfStands : half.Stands ((1 : Int) * (2 : ℚ) ^ (-1 : Int)) := by
  refine ⟨by decide, ?_⟩
  have ratio : half.signedRatio = (0x10000000000000, 0x20000000000000) := by decide +kernel
  rw [Double.value, ratio]
  norm_num

theorem halvingShort {n : Nat} (makes : Makes halving n leafSearch () s ())
    (few : s.ranking.size < 2 * Double.hiddenBit) :
    ∀ e ∈ s.ranking.entries, Candidate.Short e.fitness s.ranking.size := by
  have measured : s.Measured fun _ => .ok .two :=
    makesMeasured makes leafReachable halvingAnswers (.start (startSource leafStart) rfl)
  have worth (c : Candidate) : s.worth (fun _ => .ok .two) c = .zero ∨
      s.worth (fun _ => .ok .two) c = half := by
    have fallback : leafSearch.scoring.fallback = .zero := by decide
    have earned : leafSearch.scoring.earned (.ok .two) = half := by decide +kernel
    rw [Search.worth, Scoring.worth, makesScoring makes, fallback, earned]
    split
    · exact .inl rfl
    · exact .inr rfl
  intro e mem
  rw [measured.fitness e mem]
  rcases worth e.candidate with none | once
  · refine ⟨0, 0, ?_, by simp [Double.hiddenBit], by decide, by decide⟩
    rw [none]
    simpa using Candidate.zeroStands
  · exact ⟨1, -1, once ▸ halfStands, by simpa using few, by decide, by decide⟩

theorem bestFitnessRisesHalving : ∃ last, Makes halving 3 leafSearch () last () ∧ last.Held ∧
    last.history.length = 3 ∧
      last.history.Pairwise fun before after => before.bestFitness.le after.bestFitness := by
  obtain ⟨last, _, makes⟩ := stringlessMakes FeatureSet.empty leafReachable nofun 3 ()
  have size : last.ranking.size < 2 * Double.hiddenBit :=
    Nat.lt_of_le_of_lt (makesSize makes leafReachable) (by decide)
  have held : last.Held := shortHeld size (halvingShort makes size)
  exact ⟨last, makes, held, bestFitnessRises halvingAnswers leafStart rfl makes held⟩

/-! Two costs that differ in the last place. The lower one is best until the mean of its fitness has
moved to the fitness of the other, which is less in candidate order. -/

def nearlyThree : Double := ⟨0x4007ffffffffffff⟩

def thirdsOutcome (decisions : Decisions) : Cost :=
  .ok (if decisions.isEnabled "gvn" then nearlyThree else .ofNat 3)

def thirds : Oracle Unit := ⟨pure (.ok .one), fun decisions => pure (thirdsOutcome decisions)⟩

def thirdsConfig : SearchConfig :=
  { SearchConfig.default with
    candidatesNumber := 1
    generations := 4
    evolveProbability := half
    maxEvolutionRate := .one
    maxFormulaDepth := 0
    seed := some 25 }

def thirdsSearch : Search :=
  ⟨thirdsConfig, [⟨"gvn", .bool⟩], FeatureSet.empty, .empty, ⟨25⟩, .one, .empty, []⟩

theorem bestFitnessFalls : thirds.Answers thirdsOutcome ∧
    (start thirdsConfig ⟨[⟨"gvn", []⟩]⟩ FeatureSet.empty ⟨[]⟩ thirds).run () =
      (.ok thirdsSearch, ()) ∧
    ((steps thirds 4 thirdsSearch).run ()).1.2.history.map GenerationSummary.bestFitness =
      [⟨0x3fd5555555555555⟩, ⟨0x3fd5555555555556⟩, ⟨0x3fd5555555555556⟩, ⟨0x3fd5555555555555⟩] := by
  refine ⟨fun _ _ => rfl, rfl, ?_⟩
  simp only [steps, step, absorb, drawPool, selectPool, KnowledgeBase.ranked, Ranking.ofList,
    Ranking.extend, Sorted.sortInserted]
  decide +kernel

end Search

end PassTuner

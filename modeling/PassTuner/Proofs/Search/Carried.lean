import PassTuner.Proofs.Search.Course

/-! The scores that candidates carry into a generation.

Evolving and filling reset the score of what they change. Dropping what does not fit the active
points resets none: where the entries that are left cover these points, nothing is filled in, and
they carry the score of the whole. -/
namespace PassTuner
open Std
open Formula (bare)

namespace Candidate

variable {p rate : Double} {features : FeatureSource} {grammar : Grammar}
variable {points : List DecisionPoint} {c : Candidate} {random rest : Random}

theorem retainSize (points : List DecisionPoint) (c : Candidate) :
    (c.retain points).1.size + (c.retain points).2 = c.size :=
  Nat.add_sub_cancel' (List.length_filter_le _ _)

theorem retainNone (none : (c.retain points).2 = 0) : (c.retain points).1 = c := by
  have full : (c.entries.filter (isActive points)).length = c.entries.length := by
    have size := retainSize points c
    rwa [none] at size
  rw [retain, List.filter_eq_self.mpr (List.length_filter_eq_length_iff.mp full)]

end Candidate

namespace Search

variable {ω : Type} {oracle : Oracle ω} {first last s s' : Search} {made : List Generation}
variable {w w' : ω} {ranking : Ranking}

/-- Whether what a candidate carries is its own: nothing, or what is known of its content. -/
def Owned (s : Search) (c : Candidate) : Prop :=
  c.Unscored ∨ ∃ known ∈ s.knowledge.candidates,
    known.order c = .eq ∧ known.score = c.score ∧ known.count = c.count

instance (s : Search) (c : Candidate) : Decidable (s.Owned c) :=
  inferInstanceAs (Decidable (_ ∨ _))

/-- A stored candidate covers the active points and has entries apart from these. -/
structure Outdated (s : Search) (stored : Candidate) : Prop where
  drops : (stored.retain s.points).2 ≠ 0
  covers : (stored.retain s.points).1.Covers s.points

/-- A candidate that is drawn carries nothing, or it is what fits the active points of a known
one. -/
theorem drawPoolCarries {pool : List Candidate} {rest : Random}
    (ran : s.drawPool.run.run s.random = (.ok pool, rest)) :
    ∀ c ∈ pool, c.Unscored ∨ ∃ known ∈ s.knowledge.candidates, c = (known.retain s.points).1 := by
  obtain ⟨selected, moved, drawn, completed⟩ := Gen.bindOk ran
  have carried : ∀ c ∈ selected,
      c.Unscored ∨ ∃ known ∈ s.knowledge.candidates, c = (known.retain s.points).1 := by
    intro c mem
    rcases selectPoolSource drawn c mem with
      rfl | ⟨known, inside, same | ⟨before, n, after, evolved⟩⟩
    · exact .inl ⟨rfl, rfl⟩
    · exact .inr ⟨known, inside, same⟩
    · exact (Candidate.evolveCarries evolved).imp_right fun same => ⟨known, inside, same⟩
  intro c mem
  obtain ⟨gaps, inside, before, after, filled⟩ := (completeAllSource completed).2.1 c mem
  obtain ⟨n, filled⟩ := completeSource filled
  rcases (Candidate.fillMissingSource filled).carries with unscored | ⟨_, rfl⟩
  · exact .inl unscored
  · exact carried c inside

theorem stepCarried (sound : s.Sound) (step : (s.step oracle).run w = ((.ok ranking, s'), w')) :
    ∀ e ∈ ranking.entries, s.Owned e.candidate ∨
      ∃ known ∈ s.knowledge.candidates, s.Outdated known ∧
        e.candidate = (known.retain s.points).1 := by
  obtain ⟨pool, random, drawn, candidates⟩ := stepPool step
  intro e mem
  have covers := (stepCovers sound step).2 e mem
  rcases drawPoolCarries drawn e.candidate (candidates.mem_iff.mp (List.mem_map_of_mem mem)) with
    unscored | ⟨known, inside, same⟩
  · exact .inl (.inl unscored)
  -- a known candidate that loses nothing is handed over with what is its own
  by_cases none : (known.retain s.points).2 = 0
  · rw [Candidate.retainNone none] at same
    subst same
    exact .inl (.inr ⟨e.candidate, inside, ReflCmp.compare_self, rfl, rfl⟩)
  · exact .inr ⟨known, inside, ⟨none, same ▸ covers⟩, same⟩

/-- What is known covers the active points, unless it was loaded. -/
theorem Course.known {features : FeatureSource} (course : Course oracle first made last)
    (begins : Reachable features oracle first) :
    ∀ known ∈ last.knowledge.candidates, known.Covers last.points ∨
      ∃ loaded ∈ first.knowledge.candidates, known.entries = loaded.entries := by
  refine course.keeps (motive := fun _ s => ∀ known ∈ s.knowledge.candidates,
    known.Covers s.points ∨ ∃ loaded ∈ first.knowledge.candidates, known.entries = loaded.entries)
    (fun known mem => .inr ⟨known, mem, rfl⟩) (fun _ _ _ known => known) ?_
  intro made s s' ranking w w' before known step c mem
  have sound : s.Sound := reachableSound (before.reachable begins)
  rw [stepTaken step] at mem
  rw [(stepKeeps step).2.1]
  rcases KnowledgeBase.recordAllSource mem with ⟨old, inside, same⟩ | ⟨e, inside, same⟩
  · rw [same]
    exact (known old inside).imp_left fun covers => covers.sameEntries same
  · exact .inl (((stepCovers sound step).2 e inside).sameEntries same)

/-- In every generation each candidate carries what is its own, or it is what is left of a loaded
one that has entries apart from the active points. If that is the best one known, what is left of
it is evaluated with the score of the whole. -/
theorem scoresOwned {config catalog features files} {w₀ : ω}
    (start : (start config catalog features files oracle).run w₀ = (.ok first, w'))
    (course : Course oracle first made s) {w w' : ω}
    (step : (s.step oracle).run w = ((.ok ranking, s'), w')) :
    (∀ e ∈ ranking.entries, s.Owned e.candidate ∨
      ∃ known ∈ s.knowledge.candidates, s.Outdated known ∧
        e.candidate = (known.retain s.points).1 ∧
        ∃ loaded ∈ first.knowledge.candidates, known.entries = loaded.entries) ∧
    ∀ best others, s.knowledge.ranked = best :: others → s.Outdated best →
      ∃ e ∈ ranking.entries, e.candidate = (best.retain s.points).1 ∧
        e.candidate.size < best.size := by
  have begins : Reachable features oracle first := .started start
  have sound : s.Sound := reachableSound (course.reachable begins)
  constructor
  · intro e mem
    refine (stepCarried sound step e mem).imp_right ?_
    rintro ⟨known, inside, outdated, same⟩
    refine ⟨known, inside, outdated, same, (course.known begins known inside).resolve_left ?_⟩
    -- one that covers the active points would lose nothing
    intro covers
    have size := Candidate.retainSize s.points known
    rw [Candidate.retainCovering sound.ascending covers] at size
    exact outdated.drops (Nat.add_eq_left.mp size)
  · intro best others ranked outdated
    obtain ⟨e, mem, same⟩ := stepRetains ranked outdated.covers step
    have size := Candidate.retainSize s.points best
    have drops := outdated.drops
    exact ⟨e, mem, same, by rw [same]; omega⟩

/-! A base saved when there was a second optimization. -/

def outgrown : Candidate :=
  ⟨[(⟨"dce", .bool⟩, .literal (.bool true)), (⟨"old", .bool⟩, .literal (.bool true))], .two, 1⟩

def outgrownBase : KnowledgeBase := ⟨[outgrown]⟩

def outgrownConfig : SearchConfig :=
  { SearchConfig.default with
    candidatesNumber := 1
    evolveProbability := .zero
    knowledgeBase := some "kb" }

def outgrownSearch : Search :=
  ⟨outgrownConfig, [⟨"dce", .bool⟩], FeatureSet.empty, outgrownBase, ⟨0⟩, .one, .empty, []⟩

theorem outgrownStart : (start outgrownConfig ⟨[⟨"dce", []⟩]⟩ FeatureSet.empty
    (fileWith outgrownBase.save) halving).run () = (.ok outgrownSearch, ()) := by
  have loaded : loadKnowledge (fileWith outgrownBase.save) outgrownConfig.knowledgeBase =
      .ok outgrownBase :=
    loadSavedFile ⟨by decide, by decide +kernel, by decide⟩ ⟨by decide, by decide, by decide⟩
  rw [Search.start, prepareOk rfl rfl rfl loaded]
  rfl

/-- What is left of the stored candidate is evaluated with the score of the whole, which is
neither nothing nor that of a known one. -/
theorem scoresOwnedOutgrown : ∃ ranking s',
    (outgrownSearch.step halving).run () = ((.ok ranking, s'), ()) ∧
      ∃ e ∈ ranking.entries, e.candidate = ⟨[(⟨"dce", .bool⟩, .literal (.bool true))], .two, 1⟩ ∧
        ¬ outgrownSearch.Owned e.candidate := by
  have drawn : ((outgrownSearch.step halving).run ()).1.1.isOk := by decide +kernel
  rcases step : (outgrownSearch.step halving).run () with ⟨⟨result, s'⟩, _⟩
  rw [step] at drawn
  cases result with
  | error e => contradiction
  | ok ranking =>
    have carried := (scoresOwned outgrownStart .begun step).2
    obtain ⟨e, mem, same, _⟩ := carried outgrown [] (by decide +kernel) ⟨by decide, by decide⟩
    refine ⟨ranking, s', rfl, e, mem, same, ?_⟩
    rw [same]
    decide

end Search

end PassTuner

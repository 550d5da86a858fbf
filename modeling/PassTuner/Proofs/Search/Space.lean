import PassTuner.Proofs.Formula.Space
import PassTuner.Proofs.Search.Course

/-! A search that begins with nothing keeps to its space of formulas.

A generation is drawn from what is known and from what the grammar yields, and is all that is
stored after it. -/
namespace PassTuner.Search
open Formula (Hereditary)

variable {ω : Type} {oracle : Oracle ω} {first last s s' : Search} {made : List Generation}
variable {w w' : ω} {ranking : Ranking} {good : Formula → Prop}

theorem stepAll
    (hereditary : Hereditary s.config.mutationProbability s.features s.config.grammar good)
    (known : ∀ c ∈ s.knowledge.candidates, c.All good)
    (step : (s.step oracle).run w = ((.ok ranking, s'), w')) :
    (∀ e ∈ ranking.entries, e.candidate.All good) ∧ ∀ c ∈ s'.knowledge.candidates, c.All good := by
  obtain ⟨pool, random, drawn, candidates⟩ := stepPool step
  have retained : ∀ c ∈ s.knowledge.candidates, (c.retain s.points).1.All good :=
    fun c mem entry kept => known c mem entry (List.mem_filter.mp kept).1
  have ranked : ∀ e ∈ ranking.entries, e.candidate.All good := by
    intro e mem
    have inside := candidates.mem_iff.mp (List.mem_map_of_mem mem)
    exact drawPoolAll hereditary retained drawn e.candidate inside
  refine ⟨ranked, fun c mem => ?_⟩
  rw [stepTaken step] at mem
  rcases KnowledgeBase.recordAllSource mem with ⟨old, inside, same⟩ | ⟨e, inside, same⟩
  · rw [Candidate.All, same]
    exact known old inside
  · rw [Candidate.All, same]
    exact ranked e inside

/-- Of every formula that is stored, or ranked in a generation or over all of them. -/
structure Holds (good : Formula → Prop) (made : List Generation) (s : Search) : Prop where
  known : ∀ c ∈ s.knowledge.candidates, c.All good
  ranked : ∀ e ∈ s.ranking.entries, e.candidate.All good
  rankings : ∀ g ∈ made, ∀ e ∈ g.ranking.entries, e.candidate.All good

theorem Course.holds (course : Course oracle first made last)
    (hereditary :
      Hereditary first.config.mutationProbability first.features first.config.grammar good)
    (begins : Holds good [] first) : Holds good made last := by
  refine course.keeps begins (fun _ _ _ holds => ⟨holds.known, holds.ranked, holds.rankings⟩) ?_
  intro made s s' ranking w w' before holds step
  rw [← before.configKept, ← before.featuresKept] at hereditary
  obtain ⟨fresh, stored⟩ := stepAll hereditary holds.known step
  refine ⟨stored, fun e mem => ?_, List.forall_mem_append.mpr
    ⟨holds.rankings, List.forall_mem_singleton.mpr fresh⟩⟩
  exact ((stepRanked step).mp mem).elim (holds.ranked e) (fresh e)

theorem searchSpace {config catalog files} {entries : List (FeatureRef × Value)}
    (start : (start config catalog (FeatureSet.ofList entries).source files oracle).run w =
      (.ok first, w'))
    (empty : first.knowledge = .empty) (course : Course oracle first made last) :
    (∀ c ∈ last.knowledge.candidates, c.InSpace (.ofList entries) config.maxFormulaDepth) ∧
    (∀ e ∈ last.ranking.entries,
      e.candidate.InSpace (.ofList entries) config.maxFormulaDepth) ∧
    ∀ g ∈ made, ∀ e ∈ g.ranking.entries,
      e.candidate.InSpace (.ofList entries) config.maxFormulaDepth := by
  have started := startSource start
  have hereditary : Hereditary first.config.mutationProbability first.features first.config.grammar
      (Formula.InSpace (.ofList entries) config.maxFormulaDepth) := by
    rw [started.settings, started.features]
    exact Formula.hereditarySpace (FeatureSet.ofListAscending entries)
  have holds : Holds (Formula.InSpace (.ofList entries) config.maxFormulaDepth) made last := by
    refine course.holds hereditary ⟨?_, ?_, List.forall_mem_nil _⟩
    · rw [empty]
      exact List.forall_mem_nil _
    · rw [started.ranking]
      exact List.forall_mem_nil _
  exact ⟨fun c mem => Candidate.inSpace (holds.known c mem),
    fun e mem => Candidate.inSpace (holds.ranked e mem),
    fun g mem e inside => Candidate.inSpace (holds.rankings g mem e inside)⟩

/-! Two points and one feature, which the formulas of the integer point may refer to. -/

def treeConfig : SearchConfig :=
  { SearchConfig.default with candidatesNumber := 2, maxFormulaDepth := 3, parameterized := true }

def loops : List (FeatureRef × Value) := [(⟨"loops", ""⟩, .int 4)]

def treeSearch : Search :=
  ⟨treeConfig, [⟨"dce", .bool⟩, ⟨"~dce.0", .int⟩], FeatureSet.ofList loops, .empty, ⟨0⟩, .one,
    .empty, []⟩

theorem treeStart : (start treeConfig ⟨[⟨"dce", [⟨"n", .int⟩]⟩]⟩ (FeatureSet.ofList loops).source
    ⟨[]⟩ halving).run () = (.ok treeSearch, ()) := rfl

theorem searchSpaceTree : ∃ made last, made.length = 3 ∧ Course halving treeSearch made last ∧
    (∀ c ∈ last.knowledge.candidates, c.InSpace (.ofList loops) 3) ∧
    (∀ e ∈ last.ranking.entries, e.candidate.InSpace (.ofList loops) 3) ∧
    ∀ g ∈ made, ∀ e ∈ g.ranking.entries, e.candidate.InSpace (.ofList loops) 3 := by
  obtain ⟨last, after, makes⟩ :=
    stringlessMakes (FeatureSet.ofList loops) (.started treeStart) (List.forall_mem_nil _) 3 ()
  obtain ⟨made, length, course⟩ := Course.begun.makes makes
  exact ⟨made, last, length, course, searchSpace treeStart rfl course⟩

end PassTuner.Search

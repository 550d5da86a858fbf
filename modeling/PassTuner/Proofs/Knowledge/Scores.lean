import PassTuner.Proofs.Candidate.Mean
import PassTuner.Proofs.Knowledge.Requests
import PassTuner.Proofs.Knowledge.Stored

/-! Whether scores can be stored.

What is not finite is not taken in, but a mean of finite values may still be lost. A base whose
scores are finite keeps them so just as long as there is room for each value when it is observed,
and a saved base is readable for just as long. Values up to `moderate` always have room. -/
namespace PassTuner
open Std

namespace Candidate

/-- What a text can hold of a candidate, its score and its count apart. -/
structure Readable (c : Candidate) : Prop where
  wellFormed : c.WellFormed
  literals : ∀ entry ∈ c.entries, entry.2.FiniteLiterals
  depths : ∀ entry ∈ c.entries, entry.2.depth ≤ 122

instance (c : Candidate) : Decidable c.Readable :=
  decidable_of_iff (c.WellFormed ∧ (∀ entry ∈ c.entries, entry.2.FiniteLiterals) ∧
      ∀ entry ∈ c.entries, entry.2.depth ≤ 122)
    ⟨fun ⟨wellFormed, literals, depths⟩ => ⟨wellFormed, literals, depths⟩,
      fun ⟨wellFormed, literals, depths⟩ => ⟨wellFormed, literals, depths⟩⟩

theorem Readable.sameEntries {c d : Candidate} (readable : c.Readable)
    (same : d.entries = c.entries) : d.Readable := by
  obtain ⟨⟨ascending, typed⟩, literals, depths⟩ := readable
  rw [← same] at ascending typed literals depths
  exact ⟨⟨ascending, typed⟩, literals, depths⟩

end Candidate

namespace KnowledgeBase
open Candidate (HasRoom moderate)

def ScoresFinite (k : KnowledgeBase) : Prop := ∀ c ∈ k.candidates, c.score.isFinite

instance (k : KnowledgeBase) : Decidable k.ScoresFinite :=
  inferInstanceAs (Decidable (∀ c ∈ k.candidates, c.score.isFinite))

/-- Whether a value can be taken into the standing of a candidate, if it is taken in at all. -/
def HasRoomFor (k : KnowledgeBase) (c : Candidate) (fitness : Double) : Prop :=
  fitness.isFinite → HasRoom (k.standing c).1 (k.standing c).2 fitness

/-- Whether each of some values has room when it is observed. -/
def HasRoomForAll (k : KnowledgeBase) (evaluations : List Evaluation) : Prop :=
  ∀ before e later, evaluations = before ++ e :: later →
    (k.recordAll before).HasRoomFor e.candidate e.fitness

variable {k : KnowledgeBase} {c d : Candidate} {fitness : Double} {evaluations : List Evaluation}

/-- A standing is that of a stored candidate, or the one that nothing has been observed for. -/
theorem standingHolds {p : Double × Nat → Prop} (fresh : p (.zero, 0))
    (stored : ∀ c ∈ k.candidates, p (c.score, c.count)) (c : Candidate) : p (k.standing c) := by
  rw [standing]
  cases found : k.find? c with
  | none => exact fresh
  | some known => exact stored known (List.mem_of_find?_eq_some found)

theorem standingFinite (finite : k.ScoresFinite) (c : Candidate) : (k.standing c).1.isFinite :=
  standingHolds (p := fun standing => standing.1.isFinite) rfl finite c

/-- Recording leaves a standing aswitchedOn or takes a finite value into it. -/
theorem recordStands (k : KnowledgeBase) (c d : Candidate) (fitness : Double) :
    (k.record c fitness).1.standing d = k.standing d ∨
      fitness.isFinite ∧ (k.record c fitness).1.standing d = takeIn (k.standing d) fitness := by
  by_cases finite : fitness.isFinite
  · rw [recordStanding k c d finite]
    split
    · exact .inr ⟨finite, rfl⟩
    · exact .inl rfl
  · exact .inl (by rw [recordIgnored k c finite])

theorem recordMember {stored : Candidate} (mem : stored ∈ (k.record c fitness).1.candidates)
    (finite : fitness.isFinite) :
    (stored.score, stored.count) = takeIn (k.standing c) fitness ∨ stored ∈ k.candidates := by
  simp only [record, finite, ↓reduceIte] at mem
  rcases Sorted.upsertMem mem with rfl | old
  · left
    rw [standing]
    cases k.find? c <;> rfl
  · exact .inr old

/-! One observation. -/

theorem recordRoom (finite : k.ScoresFinite) :
    ((k.record c fitness).1.standing c).1.isFinite ↔ k.HasRoomFor c fitness := by
  have mean := standingFinite finite c
  by_cases value : fitness.isFinite
  · have self : c.order c = .eq := ReflCmp.compare_self
    rw [recordStanding k c c value, if_pos self, takeIn, Candidate.runningMeanFinite mean value]
    exact ⟨fun room _ => room, fun room => room value⟩
  · rw [recordIgnored k c value]
    exact ⟨fun _ finite => absurd finite value, fun _ => mean⟩

theorem recordScores (finite : k.ScoresFinite) :
    (k.record c fitness).1.ScoresFinite ↔ k.HasRoomFor c fitness := by
  refine ⟨fun after => (recordRoom finite).mp (standingFinite after c), fun room stored mem => ?_⟩
  by_cases value : fitness.isFinite
  · rcases recordMember mem value with taken | old
    · have mean := standingFinite finite c
      have score : stored.score = (takeIn (k.standing c) fitness).1 := congrArg Prod.fst taken
      rw [score]
      exact (Candidate.runningMeanFinite mean value).mpr (room value)
    · exact finite stored old
  · rw [recordIgnored k c value] at mem
    exact finite stored mem

/-! Any number of observations. -/

/-- What each observation leaves in place of a standing, with the number of those to come. -/
theorem recordAllHolds {p : Nat → Double × Nat → Prop} (begins : p evaluations.length (k.standing d))
    (passes : ∀ left standing, p (left + 1) standing → p left standing)
    (takes : ∀ left standing, ∀ e ∈ evaluations, e.fitness.isFinite →
      p (left + 1) standing → p left (takeIn standing e.fitness)) :
    p 0 ((k.recordAll evaluations).standing d) := by
  induction evaluations generalizing k with
  | nil => exact begins
  | cons e rest ih =>
    refine @ih (k.record e.candidate e.fitness).1 ?_ fun left standing other mem =>
      takes left standing other (List.mem_cons_of_mem _ mem)
    rcases recordStands k e.candidate d e.fitness with same | ⟨finite, taken⟩
    · rw [same]
      exact passes _ _ begins
    · rw [taken]
      exact takes _ _ e List.mem_cons_self finite begins

/-- A score that is lost stays lost. -/
theorem recordAllKept (after : ((k.recordAll evaluations).standing d).1.isFinite) :
    (k.standing d).1.isFinite := by
  by_contra lost
  refine recordAllHolds (p := fun _ standing => ¬standing.1.isFinite) lost (fun _ _ => id) ?_ after
  intro _ standing e _ _ lost kept
  exact lost (Candidate.runningMeanKept kept)

theorem recordAllScores (finite : k.ScoresFinite) (evaluations : List Evaluation) :
    (k.recordAll evaluations).ScoresFinite ↔ k.HasRoomForAll evaluations := by
  induction evaluations generalizing k with
  | nil => exact ⟨fun _ before e later split => by cases before <;> contradiction, fun _ => finite⟩
  | cons e rest ih =>
    constructor
    · intro after
      have kept : ((k.record e.candidate e.fitness).1.standing e.candidate).1.isFinite :=
        recordAllKept (standingFinite after e.candidate)
      have room := (recordRoom finite).mp kept
      have later := (ih ((recordScores finite).mpr room)).mp after
      rintro (_ | ⟨first, before⟩) other more split
      · cases split
        exact room
      · cases split
        exact later before other more rfl
    · intro room
      have first := (recordScores finite).mpr (room [] e rest rfl)
      refine (ih first).mpr fun before other more split => ?_
      exact room (e :: before) other more (congrArg (e :: ·) split)

theorem recordAllCount (k : KnowledgeBase) (evaluations : List Evaluation) (d : Candidate) :
    ((k.recordAll evaluations).standing d).2 ≤ (k.standing d).2 + evaluations.length := by
  refine recordAllHolds
    (p := fun left standing => standing.2 + left ≤ (k.standing d).2 + evaluations.length)
    (Nat.le_refl _) ?_ ?_
  · intro left standing bound
    omega
  · intro left standing e _ _ bound
    rw [takeIn]
    omega

theorem recordAllModerate (stored : (k.standing d).1.Within moderate)
    (observed : ∀ e ∈ evaluations, e.fitness.isFinite → e.fitness.Within moderate)
    (count : (k.standing d).2 + evaluations.length ≤ CandidateRecord.countLimit) :
    ((k.recordAll evaluations).standing d).1.Within moderate := by
  refine (recordAllHolds (p := fun left standing => standing.1.Within moderate ∧
    standing.2 + left ≤ CandidateRecord.countLimit) ⟨stored, count⟩ ?_ ?_).1
  · rintro left standing ⟨within, bound⟩
    exact ⟨within, Nat.le_of_succ_le bound⟩
  · rintro left standing e mem finite ⟨within, bound⟩
    have countable : standing.2 + 1 < 2 ^ 33 := by
      unfold CandidateRecord.countLimit at bound
      omega
    refine ⟨Candidate.runningMeanModerate within (observed e mem finite) countable, ?_⟩
    rw [takeIn]
    omega

/-- What a text can hold of a base and of what is observed for it, the scores apart. -/
structure Recordable (k : KnowledgeBase) (evaluations : List Evaluation) : Prop where
  ascending : Sorted.Ascending Candidate.order k.candidates
  stored : ∀ c ∈ k.candidates, c.Readable
  observed : ∀ e ∈ evaluations, e.candidate.Readable
  counts : ∀ c ∈ k.candidates, c.count + evaluations.length ≤ CandidateRecord.countLimit
  few : evaluations.length ≤ CandidateRecord.countLimit

instance (k : KnowledgeBase) (evaluations : List Evaluation) : Decidable (k.Recordable evaluations) :=
  decidable_of_iff (Sorted.Ascending Candidate.order k.candidates ∧
      (∀ c ∈ k.candidates, c.Readable) ∧ (∀ e ∈ evaluations, e.candidate.Readable) ∧
      (∀ c ∈ k.candidates, c.count + evaluations.length ≤ CandidateRecord.countLimit) ∧
      evaluations.length ≤ CandidateRecord.countLimit)
    ⟨fun ⟨ascending, stored, observed, counts, few⟩ => ⟨ascending, stored, observed, counts, few⟩,
      fun ⟨ascending, stored, observed, counts, few⟩ => ⟨ascending, stored, observed, counts, few⟩⟩

theorem Recordable.countable (recordable : k.Recordable evaluations) (c : Candidate) :
    (k.standing c).2 + evaluations.length ≤ CandidateRecord.countLimit := by
  refine standingHolds (p := fun standing => standing.2 + evaluations.length ≤ _) ?_
    recordable.counts c
  rw [Nat.zero_add]
  exact recordable.few

theorem Recordable.readable (recordable : k.Recordable evaluations) :
    ∀ c ∈ (k.recordAll evaluations).candidates, c.Readable := by
  intro c mem
  rcases recordAllSource mem with ⟨old, known, same⟩ | ⟨e, evaluated, same⟩
  · exact (recordable.stored old known).sameEntries same
  · exact (recordable.observed e evaluated).sameEntries same

theorem Recordable.wellFormed (recordable : k.Recordable evaluations) :
    (k.recordAll evaluations).WellFormed := by
  have ascending := recordAllAscending recordable.ascending evaluations
  refine ⟨ascending, fun c mem => (recordable.readable c mem).wellFormed, fun c mem => ?_⟩
  have count := recordAllCount k evaluations c
  rw [memberStanding ascending mem] at count
  exact Nat.le_trans count (recordable.countable c)

theorem Recordable.loads (recordable : k.Recordable evaluations) :
    (∃ loaded, load (k.recordAll evaluations).save = .ok loaded) ↔
      (k.recordAll evaluations).ScoresFinite := by
  have exact := loadExact recordable.wellFormed
  constructor
  · rintro ⟨loaded, ok⟩
    exact ((exact loaded).mp ok).1.scores
  · intro scores
    have literals := fun c mem => (recordable.readable c mem).literals
    have depths := fun c mem => (recordable.readable c mem).depths
    exact ⟨_, (exact _).mpr ⟨⟨scores, literals, depths⟩, rfl⟩⟩

/-- Moderate values have room for as many of them as can be counted. -/
theorem moderateRoom (recordable : k.Recordable evaluations)
    (stored : ∀ c ∈ k.candidates, c.score.Within moderate)
    (observed : ∀ e ∈ evaluations, e.fitness.isFinite → e.fitness.Within moderate) :
    k.HasRoomForAll evaluations := by
  have fresh : Double.zero.Within moderate := by
    refine ⟨rfl, ?_⟩
    rw [Candidate.zeroStands.value, abs_zero, moderate]
    positivity
  have finite : k.ScoresFinite := fun c mem => (stored c mem).finite
  refine (recordAllScores finite evaluations).mp fun c mem => ?_
  have standing := standingHolds (p := fun standing => standing.1.Within moderate) fresh stored c
  have score := recordAllModerate standing observed (recordable.countable c)
  rw [memberStanding (recordAllAscending recordable.ascending evaluations) mem] at score
  exact score.finite

theorem scoresSaved (finite : k.ScoresFinite) (evaluations : List Evaluation) :
    (∀ c fitness, (k.record c fitness).1.ScoresFinite ↔ k.HasRoomFor c fitness) ∧
      ((k.recordAll evaluations).ScoresFinite ↔ k.HasRoomForAll evaluations) ∧
      (k.Recordable evaluations →
        ((∃ loaded, load (k.recordAll evaluations).save = .ok loaded) ↔
          k.HasRoomForAll evaluations)) := by
  have scores := recordAllScores finite evaluations
  exact ⟨fun _ _ => recordScores finite, scores, fun recordable => recordable.loads.trans scores⟩

/-! Two observations near the greatest double have no room in one standing, but in two. -/

def switchedOn : Candidate := ⟨[(⟨"gvn", .bool⟩, .literal (.bool true))], .zero, 0⟩

def switchedOff : Candidate := ⟨[(⟨"gvn", .bool⟩, .literal (.bool false))], .zero, 0⟩

def steep (c : Candidate) : Evaluation := ⟨c, .ofDecimal false 1 308, .measured .one⟩

def steepBase : KnowledgeBase := empty.recordAll [steep switchedOn]

example : ¬(steepBase.record switchedOn (.ofDecimal false 1 308)).1.ScoresFinite := by decide +kernel

theorem scoresSavedSteep : steepBase.ScoresFinite ∧
    (steepBase.HasRoomForAll [steep switchedOff] ∧
      ∃ loaded, load (steepBase.recordAll [steep switchedOff]).save = .ok loaded) ∧
    ¬steepBase.HasRoomFor switchedOn (.ofDecimal false 1 308) ∧
    ¬steepBase.HasRoomForAll [steep switchedOff, steep switchedOn] ∧
      ¬∃ loaded, load (steepBase.recordAll [steep switchedOff, steep switchedOn]).save = .ok loaded := by
  have finite : steepBase.ScoresFinite := by decide +kernel
  obtain ⟨-, kept, loads⟩ := scoresSaved finite [steep switchedOff]
  obtain ⟨step, lost, fails⟩ := scoresSaved finite [steep switchedOff, steep switchedOn]
  have room : steepBase.HasRoomForAll [steep switchedOff] := kept.mp (by decide +kernel)
  have none : ¬steepBase.HasRoomFor switchedOn (.ofDecimal false 1 308) :=
    mt (step _ _).mpr (by decide +kernel)
  have full : ¬steepBase.HasRoomForAll [steep switchedOff, steep switchedOn] := mt lost.mpr (by decide +kernel)
  have recordable : steepBase.Recordable [steep switchedOff] := by
    decide +kernel
  have recordable' : steepBase.Recordable [steep switchedOff, steep switchedOn] := by
    decide +kernel
  exact ⟨finite, ⟨room, (loads recordable).mpr room⟩, none, full, mt (fails recordable').mp full⟩

end KnowledgeBase

end PassTuner

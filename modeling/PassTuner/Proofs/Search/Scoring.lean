import PassTuner.Proofs.Order
import PassTuner.Search.Scoring

/-! What evaluating candidates gives: one evaluation of each, in their order, with a finite fitness
if the fallback is finite.

Where the oracle answers by the decisions alone, candidates of one content have one fitness, their
worth, whenever they are evaluated. -/
namespace PassTuner

/-- Whatever has been measured before, the same decisions get the same answer. -/
def Oracle.Answers {ω : Type} (oracle : Oracle ω) (outcome : Decisions → Cost) : Prop :=
  ∀ decisions w, ((oracle.measure decisions).run w).1 = outcome decisions

theorem Candidate.decideEntriesSame {features : FeatureSource} {as bs : List Entry}
    (same : as.map (fun entry => (entry.1.name, entry.2)) =
      bs.map fun entry => (entry.1.name, entry.2)) (decisions : Decisions) :
    decideEntries features as decisions = decideEntries features bs decisions := by
  induction as generalizing bs decisions with
  | nil =>
    cases List.map_eq_nil_iff.mp same.symm
    rfl
  | cons a as ih =>
    obtain ⟨b, bs, rfl, named, rest⟩ := List.map_eq_cons_iff.mp same.symm
    obtain ⟨name, formula⟩ := Prod.mk.inj named
    rw [decideEntries, decideEntries, name, formula]
    exact congrArg (_ >>= ·) (funext fun value => ih rest.symm _)

theorem Candidate.decideSame {features : FeatureSource} {c d : Candidate}
    (same : c.order d = .eq) : c.decide features = d.decide features :=
  decideEntriesSame (orderSame.mp same) _

namespace Scoring

variable {ω : Type} {oracle : Oracle ω}

theorem fitnessFinite {s : Scoring} {cost fitness : Double} (ok : s.fitness cost = .ok fitness) :
    fitness.isFinite := by
  simp only [Scoring.fitness] at ok
  split at ok <;> try contradiction
  rename_i usable
  cases ok
  exact usable.2

/-- The fitness that a cost is given. -/
def earned (s : Scoring) : Cost → Double
  | .error _ => s.fallback
  | .ok cost =>
    match s.fitness cost with
    | .ok fitness => fitness
    | .error _ => s.fallback

theorem judgeEarned (s : Scoring) (c : Candidate) (cost : Cost) :
    (s.judge c cost).fitness = s.earned cost := by
  cases cost with
  | error e => rfl
  | ok cost =>
    rw [judge, earned]
    cases s.fitness cost <;> rfl

theorem earnedFinite {s : Scoring} (fallback : s.fallback.isFinite) (cost : Cost) :
    (s.earned cost).isFinite := by
  cases cost with
  | error e => exact fallback
  | ok cost =>
    simp only [earned]
    split
    · rename_i judged
      exact fitnessFinite judged
    · exact fallback

theorem judgeFinite {s : Scoring} (fallback : s.fallback.isFinite) (c : Candidate) (cost : Cost) :
    (s.judge c cost).fitness.isFinite := by
  rw [judgeEarned]
  exact earnedFinite fallback cost

theorem evaluateFinite {s : Scoring} {features} {c : Candidate} {w : ω}
    (fallback : s.fallback.isFinite) :
    ((s.evaluate features oracle c).run w).1.fitness.isFinite := by
  simp only [evaluate]
  split
  · exact fallback
  · exact judgeFinite fallback c _

theorem evaluateAllFinite {s : Scoring} {features} {pool : List Candidate}
    {w : ω} (fallback : s.fallback.isFinite) :
    ∀ e ∈ ((s.evaluateAll features oracle pool).run w).1, e.fitness.isFinite := by
  induction pool generalizing w with
  | nil => exact fun e mem => nomatch mem
  | cons c rest ih => exact List.forall_mem_cons.mpr ⟨evaluateFinite fallback, ih⟩

theorem judgeCandidate (s : Scoring) (c : Candidate) (cost : Cost) :
    (s.judge c cost).candidate = c := by
  cases cost with
  | error e => rfl
  | ok cost =>
    simp only [judge]
    split <;> rfl

theorem evaluateCandidate {s : Scoring} {features} {c : Candidate} {w : ω} :
    ((s.evaluate features oracle c).run w).1.candidate = c := by
  simp only [evaluate]
  split
  · rfl
  · exact judgeCandidate s c _

theorem evaluateAllCandidates {s : Scoring} {features} {pool : List Candidate} {w : ω} :
    ((s.evaluateAll features oracle pool).run w).1.map Evaluation.candidate = pool := by
  induction pool generalizing w with
  | nil => rfl
  | cons c rest ih => exact congr (congrArg List.cons evaluateCandidate) ih

/-- The fitness that a candidate is given where the oracle answers by the decisions alone. -/
def worth (s : Scoring) (features : FeatureSource) (outcome : Decisions → Cost) (c : Candidate) :
    Double :=
  match c.decide features with
  | .error _ => s.fallback
  | .ok decisions => s.earned (outcome decisions)

theorem worthFinite {s : Scoring} (fallback : s.fallback.isFinite) (features : FeatureSource)
    (outcome : Decisions → Cost) (c : Candidate) : (s.worth features outcome c).isFinite := by
  rw [worth]
  split
  · exact fallback
  · exact earnedFinite fallback _

theorem worthSame {s : Scoring} {features} {outcome} {c d : Candidate} (same : c.order d = .eq) :
    s.worth features outcome c = s.worth features outcome d := by
  rw [worth, worth, Candidate.decideSame same]

theorem evaluateWorth {s : Scoring} {features} {outcome} (answers : oracle.Answers outcome)
    {c : Candidate} {w : ω} :
    ((s.evaluate features oracle c).run w).1.fitness = s.worth features outcome c := by
  rw [evaluate, worth]
  cases c.decide features with
  | error e => rfl
  | ok decisions => exact (judgeEarned s c _).trans (congrArg s.earned (answers decisions w))

theorem evaluateAllWorth {s : Scoring} {features} {outcome} (answers : oracle.Answers outcome)
    {pool : List Candidate} {w : ω} :
    ∀ e ∈ ((s.evaluateAll features oracle pool).run w).1,
      e.fitness = s.worth features outcome e.candidate := by
  induction pool generalizing w with
  | nil => exact fun e mem => nomatch mem
  | cons c rest ih =>
    refine List.forall_mem_cons.mpr ⟨(evaluateWorth answers).trans ?_, ih⟩
    exact congrArg (s.worth features outcome) evaluateCandidate.symm

end Scoring

end PassTuner

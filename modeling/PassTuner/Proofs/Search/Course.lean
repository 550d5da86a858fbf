import PassTuner.Proofs.Search.Progress

/-! The course of a search: the generations that it has made, in their order.

Between two of them the random stream may be set to any place, and generations may be refused,
which moves nothing else. What holds at the start and is kept by these and by each generation that
is made holds after every course. -/
namespace PassTuner.Search

variable {ω : Type} {oracle : Oracle ω} {first last s s' : Search} {w w' : ω}

/-- A generation that was made: the search before it, and how it ranked. -/
structure Generation where
  before : Search
  ranking : Ranking

inductive Course (oracle : Oracle ω) (first : Search) : List Generation → Search → Prop
  | begun : Course oracle first [] first
  | reseeded {made s} (random : Random) (before : Course oracle first made s) :
      Course oracle first made { s with random := random }
  | refused {made s s'} {e : FormulaError} {w w' : ω} (before : Course oracle first made s)
      (step : (s.step oracle).run w = ((.error e, s'), w')) : Course oracle first made s'
  | made {made s s' ranking} {w w' : ω} (before : Course oracle first made s)
      (step : (s.step oracle).run w = ((.ok ranking, s'), w')) :
      Course oracle first (made ++ [⟨s, ranking⟩]) s'

theorem refusedMoves {e : FormulaError} (step : (s.step oracle).run w = ((.error e, s'), w')) :
    ∃ random, s' = { s with random := random } := by
  obtain ⟨drawn, random, _, cases⟩ := stepCases step
  cases drawn with
  | error e =>
    obtain ⟨_, rfl, _⟩ := cases
    exact ⟨random, rfl⟩
  | ok pool =>
    obtain ⟨_, _, failed, _⟩ := cases
    contradiction

namespace Course

variable {made : List Generation}

theorem keeps {motive : List Generation → Search → Prop} (course : Course oracle first made last)
    (begins : motive [] first)
    (moves : ∀ made s random, motive made s → motive made { s with random := random })
    (makes : ∀ made s s' ranking w w', Course oracle first made s → motive made s →
      (s.step oracle).run w = ((.ok ranking, s'), w') → motive (made ++ [⟨s, ranking⟩]) s') :
    motive made last := by
  induction course with
  | begun => exact begins
  | reseeded random before ih => exact moves _ _ random ih
  | refused before step ih =>
    obtain ⟨random, rfl⟩ := refusedMoves step
    exact moves _ _ random ih
  | made before step ih => exact makes _ _ _ _ _ _ before ih step

theorem reachable {features : FeatureSource} (course : Course oracle first made last)
    (reachable : Reachable features oracle first) : Reachable features oracle last :=
  course.keeps (motive := fun _ s => Reachable features oracle s) reachable
    (fun _ _ random before => .reseeded random before)
    fun _ _ _ _ _ _ _ before step => .stepped before step

theorem configKept (course : Course oracle first made last) : last.config = first.config :=
  course.keeps (motive := fun _ s => s.config = first.config) rfl (fun _ _ _ same => same)
    fun _ _ _ _ _ _ _ same step => (stepKeeps step).1.trans same

theorem featuresKept (course : Course oracle first made last) : last.features = first.features :=
  course.keeps (motive := fun _ s => s.features = first.features) rfl (fun _ _ _ same => same)
    fun _ _ _ _ _ _ _ same step => (stepKeeps step).2.2.trans same

theorem makes {n : Nat} (course : Course oracle first made s)
    (makes : Makes oracle n s w s' w') :
    ∃ more : List Generation, more.length = n ∧ Course oracle first (made ++ more) s' := by
  induction makes generalizing made with
  | none s w => exact ⟨[], rfl, by rwa [List.append_nil]⟩
  | more step others ih =>
    obtain ⟨more, length, whole⟩ := ih (course.made step)
    exact ⟨_ :: more, congrArg (· + 1) length, by rwa [List.append_cons]⟩

end Course

end PassTuner.Search

import PassTuner.Proofs.Formula.Ranges
import PassTuner.Proofs.Formula.Space

/-! What comes of drawing a formula.

Strings are refused. For every other type a draw gives a formula of that type from any stream,
which keeps to the limits of the grammar and can be looked up in the table of features, and it never
asks for an element of an empty range. -/
namespace PassTuner.Formula

structure DrawnFor (set : FeatureSet) (grammar : Grammar) (levels : Nat) (type : ValueType)
    (f : Formula) : Prop where
  typed : f.HasType type
  low : f.depth ≤ levels
  stringless : f.Stringless
  ints : ∀ i, .literal (.int i) ∈ f.nodes →
    0 ≤ i.toInt ∧ i.toInt ≤ max grammar.intLiteralMax.toInt 0
  resolved : ∀ type ref, .feature type ref ∈ f.nodes →
    ∃ value, set.lookup ref type = .ok value ∧ value.type = type

variable {set : FeatureSet} {features : FeatureSource} {grammar : Grammar} {room : Nat}
variable {type : ValueType} {f : Formula}

theorem Grown.intWithin {i : Int64} (grown : Grown features grammar room type (.literal (.int i))) :
    0 ≤ i.toInt ∧ i.toInt ≤ max grammar.intLiteralMax.toInt 0 := by
  cases grown with
  | @int _ drawn lower upper =>
    have most := grammar.intLiteralMax.toInt_lt
    have same : (Int64.ofInt drawn).toInt = drawn :=
      Int64.toInt_ofInt_of_le (by omega) (by omega)
    rw [same]
    exact ⟨lower, upper⟩

theorem Grown.looksUp (ascending : Sorted.Ascending FeatureSet.entryOrder set.entries)
    {ref : FeatureRef} {shown : ValueType}
    (grown : Grown set.source grammar room type (.feature shown ref)) :
    ∃ value, set.lookup ref shown = .ok value ∧ value.type = shown := by
  cases grown with
  | feature numeric found => exact set.nthResolved ascending found

theorem Grown.drawnFor (ascending : Sorted.Ascending FeatureSet.entryOrder set.entries)
    (grown : Grown set.source grammar room type f) (drawable : type ≠ .string)
    (typed : f.HasType type) : f.DrawnFor set grammar room type where
  typed := typed
  low := grown.depth
  stringless := stringlessLasting.grown grown drawable
  ints i mem := by
    obtain ⟨_, _, _, single⟩ := grown.nodes drawable _ mem
    exact single.intWithin
  resolved type ref mem := by
    obtain ⟨_, _, _, single⟩ := grown.nodes drawable _ mem
    exact single.looksUp ascending

theorem drawnSound (entries : List (FeatureRef × Value)) (grammar : Grammar) (type : ValueType)
    (depth : Nat) (random : Random) :
    let set := FeatureSet.ofList entries
    let levels := grammar.maxDepth - depth
    let drawn := (generateAt set.source grammar type depth).run.run random
    roll .stream set.source grammar levels type = generateAt set.source grammar type depth ∧
      (roll .strict set.source grammar levels type).run.run random = some drawn ∧
      (type = .string → drawn = (.error (.unsupportedGeneration .string), random)) ∧
      (type ≠ .string →
        ∃ f rest, drawn = (.ok f, rest) ∧ f.DrawnFor set grammar levels type) := by
  intro set levels drawn
  refine ⟨rollStream set.source grammar levels type, rollStrict levels type random, ?_, ?_⟩
  · rintro rfl
    exact generateString random
  · intro drawable
    have yields : (generateAt set.source grammar type depth).Yields
        (Grown set.source grammar levels type) := generateYields set.sourceIndexed drawable
    obtain ⟨f, rest, ran, grown⟩ := yields random
    have ascending := FeatureSet.ofListAscending entries
    exact ⟨f, rest, ran, grown.drawnFor ascending drawable (generateTyped ran)⟩

end PassTuner.Formula

import PassTuner.Proofs.Formula.Drawing
import PassTuner.Proofs.Formula.Position

/-! Where a mutation takes place.

A mutation that goes well changes one place of the formula: a literal or a reference there is drawn
anew, or, anywhere but at the root, whatever stands there makes way for a tree drawn for the levels
that are left below that place. A mutation that fails has come to a string, and changes nothing. -/
namespace PassTuner.Formula
open Strategy (saturatedDouble)

variable {p : Double} {set : FeatureSet} {grammar : Grammar} {level : Nat}
variable {f old new changed : Formula} {path : List Nat} {random rest : Random}
variable {out : Changed Formula}

/-- What a leaf can be changed to. -/
inductive Redrawn (set : FeatureSet) : Formula → Formula → Prop
  | int {i j : Int64} (least : min (saturatedDouble i) 0 ≤ j.toInt)
      (most : j.toInt ≤ max (saturatedDouble i) 0) :
      Redrawn set (.literal (.int i)) (.literal (.int j))
  | float (x : Double) (random : Random) :
      Redrawn set (.literal (.float x))
        (.literal (.float (x * (.two * (Random.double.run random).1))))
  | bool (b : Bool) : Redrawn set (.literal (.bool b)) (.literal (.bool !b))
  | string (s : String) : Redrawn set (.literal (.string s)) (.literal (.string s))
  | feature {type : ValueType} {ref other : FeatureRef}
      (resolved : other = ref ∨ ∃ value, set.lookup other type = .ok value) :
      Redrawn set (.feature type ref) (.feature type other)

/-- A tree drawn for a place so many levels down. -/
structure Regrown (set : FeatureSet) (grammar : Grammar) (place : Nat) (old new : Formula) :
    Prop where
  drawn : ∃ random rest,
    (generateAt set.source grammar old.type place).run.run random = (.ok new, rest)
  sound : new.DrawnFor set grammar (grammar.maxDepth - place) old.type

theorem saturatedBounds (i : Int64) :
    -9223372036854775808 ≤ saturatedDouble i ∧ saturatedDouble i ≤ 9223372036854775807 := by
  have least : Int64.minValue.toInt = -9223372036854775808 := by decide
  have most : Int64.maxValue.toInt = 9223372036854775807 := by decide
  rw [saturatedDouble, least, most]
  omega

theorem redrawnInt (i : Int64) (random : Random) :
    Redrawn set (.literal (.int i)) (.literal ((Strategy.mutateValue (.int i)).run random).1) := by
  obtain ⟨least, most⟩ := saturatedBounds i
  have ordered : min (saturatedDouble i) 0 ≤ max (saturatedDouble i) 0 := by omega
  obtain ⟨lower, upper⟩ := Random.betweenBounds ordered random
  rw [Strategy.mutateValue, Random.runBind]
  generalize (Random.between _ _).run random = drawn at lower upper ⊢
  have same : (Int64.ofInt drawn.1).toInt = drawn.1 := Int64.toInt_ofInt_of_le (by omega) (by omega)
  exact .int (same.symm ▸ lower) (same.symm ▸ upper)

theorem redrawnLiteral (value : Value) (random : Random) :
    Redrawn set (.literal value) (.literal ((Strategy.mutateValue value).run random).1) := by
  cases value with
  | int i => exact redrawnInt i random
  | float x =>
    rw [Strategy.mutateValue, Random.runBind]
    exact .float x random
  | bool b => exact .bool b
  | string s => exact .string s

theorem redrawnFeature (ascending : Sorted.Ascending FeatureSet.entryOrder set.entries)
    (type : ValueType) (ref : FeatureRef) (random : Random) :
    Redrawn set (.feature type ref)
      (.feature type ((Strategy.mutateFeature set.source type ref).run random).1) := by
  refine .feature ((mutateFeatureSource set.source type ref random).imp_right ?_)
  rintro ⟨index, found⟩
  obtain ⟨value, looked, _⟩ := set.nthResolved ascending found
  exact ⟨value, looked⟩

theorem Redrawn.leaf (redrawn : Redrawn set old new) : old.children = [] ∧ new.depth = 0 := by
  cases redrawn <;> exact ⟨rfl, rfl⟩

theorem Redrawn.typed (redrawn : Redrawn set old new) : new.type = old.type := by
  cases redrawn <;> rfl

/-- The subterm in a place, and what has come in its stead. -/
structure OneChange (set : FeatureSet) (grammar : Grammar) (f changed : Formula) (path : List Nat)
    (old new : Formula) : Prop where
  found : f.subterm? path = some old
  put : changed = f.put path new
  replaced : changed.subterm? path = some new
  elsewhere : ∀ other, ¬path <+: other →
    (changed.subterm? other).map root = (f.subterm? other).map root
  typed : new.type = old.type
  settled : Redrawn set old new ∨ path ≠ [] ∧ Regrown set grammar path.length old new
  inner : f.children ≠ [] → path ≠ []

/-- One level further down for every step of the way. -/
theorem Mutates.place (mutates : Mutates p set.source grammar level f random out rest)
    (ascending : Sorted.Ascending FeatureSet.entryOrder set.entries) (went : out.2 = .ok ()) :
    ∃ path old new, f.subterm? path = some old ∧ out.1 = f.put path new ∧
      (Redrawn set old new ∨ path ≠ [] ∧ Regrown set grammar (level + path.length) old new) := by
  induction mutates with
  | literal value random => exact ⟨[], _, _, rfl, rfl, .inl (redrawnLiteral value random)⟩
  | feature type ref random =>
    exact ⟨[], _, _, rfl, rfl, .inl (redrawnFeature ascending type ref random)⟩
  | @entered depth index f child changed _ _ _ _ drawn found below ih =>
    obtain ⟨path, old, new, under, put, settled⟩ := ih went
    refine ⟨index :: path, old, new, (subtermCons found).trans under, ?_, ?_⟩
    · rw [putCons new found, ← put]
    · refine settled.imp_right fun ⟨_, regrown⟩ => ⟨List.cons_ne_nil _ _, ?_⟩
      rw [Nat.add_right_comm] at regrown
      exact regrown
  | @redrawn depth index f child fresh _ moved rest drawn found drawable grown ran =>
    have put : f.put [index] fresh = f.withChild index fresh := putCons fresh found
    refine ⟨[index], child, fresh, subtermCons found, put.symm, .inr ?_⟩
    exact ⟨List.cons_ne_nil _ _, ⟨moved, rest, ran⟩,
      grown.drawnFor ascending drawable (generateTyped ran)⟩
  | refused drawn found text => contradiction

theorem OneChange.depth (change : OneChange set grammar f changed path old new) :
    changed.depth ≤ max f.depth grammar.maxDepth := by
  have placed := f.putDepth path new
  have level := subtermDepth change.found
  rw [← change.put] at placed
  rcases change.settled with redrawn | ⟨_, regrown⟩
  · have leaf := redrawn.leaf.2
    omega
  · have low := regrown.sound.low
    omega

theorem oneChange (entries : List (FeatureRef × Value)) (grammar : Grammar) (p : Double)
    (f : Formula) {changed : Formula} {random rest : Random}
    (ran : (mutate p (FeatureSet.ofList entries).source grammar 0 f).run random =
      ((changed, .ok ()), rest)) :
    (∃ path old new, OneChange (FeatureSet.ofList entries) grammar f changed path old new) ∧
      changed.depth ≤ max f.depth grammar.maxDepth ∧
      (f.children ≠ [] → changed.root = f.root) := by
  have ascending := FeatureSet.ofListAscending entries
  have mutates := mutateSource (FeatureSet.sourceIndexed _) ran
  obtain ⟨path, old, new, found, rfl, settled⟩ := mutates.place ascending rfl
  rw [Nat.zero_add] at settled
  have inner : f.children ≠ [] → path ≠ [] := by
    rintro interior rfl
    cases found
    rcases settled with redrawn | ⟨below, _⟩
    · exact interior redrawn.leaf.1
    · exact below rfl
  have typed : new.type = old.type := by
    rcases settled with redrawn | ⟨_, regrown⟩
    · exact redrawn.typed
    · exact regrown.sound.typed.2
  have change : OneChange (FeatureSet.ofList entries) grammar f (f.put path new) path old new :=
    ⟨found, rfl, putFound new found, fun other apart => putElsewhere new apart, typed, settled, inner⟩
  refine ⟨⟨path, old, new, change⟩, change.depth, fun interior => ?_⟩
  -- the root lies off every place below it
  have kept := change.elsewhere [] fun above => inner interior (List.prefix_nil.mp above)
  exact Option.some.inj kept

/-! A choice by a text: one stream draws the sum afresh, another only its first number, and a third
comes to the text. -/

def choosing : Formula :=
  .conditional .int
    (.boolean .string .eq (.feature .string ⟨"target", ""⟩) (.literal (.string "x86")))
    (.arithmetic .int .add (.literal (.int 3)) (.feature .int ⟨"size", ""⟩))
    (.feature .int ⟨"loops", ""⟩)

def measuredSizes : List (FeatureRef × Value) := [(⟨"loops", ""⟩, .int 2), (⟨"size", ""⟩, .int 40)]

def shallow : Grammar := { Grammar.default with maxDepth := 2 }

def mutateChoosing (seed : UInt64) : Changed Formula × Random :=
  (mutate ⟨0x3fe0000000000000⟩ (FeatureSet.ofList measuredSizes).source shallow 0 choosing).run ⟨seed⟩

theorem oneChangeChoosing :
    let difference := .arithmetic .int .sub (.literal (.int 19)) (.literal (.int 22))
    let regrown := choosing.put [1] difference
    let redrawn := choosing.put [1, 0] (.literal (.int 0))
    ((mutateChoosing 0).1 = (regrown, .ok ()) ∧ ∃ path old new,
      OneChange (FeatureSet.ofList measuredSizes) shallow choosing regrown path old new) ∧
    (mutateChoosing 1).1 = (redrawn, .ok ()) ∧ ∃ path old new,
      OneChange (FeatureSet.ofList measuredSizes) shallow choosing redrawn path old new := by
  intro difference regrown redrawn
  have afresh : (mutateChoosing 0).1 = (regrown, .ok ()) := by decide +kernel
  have number : (mutateChoosing 1).1 = (redrawn, .ok ()) := by decide +kernel
  have first := oneChange measuredSizes shallow ⟨0x3fe0000000000000⟩ choosing
    (Prod.ext afresh rfl : mutateChoosing 0 = ((regrown, .ok ()), (mutateChoosing 0).2))
  have second := oneChange measuredSizes shallow ⟨0x3fe0000000000000⟩ choosing
    (Prod.ext number rfl : mutateChoosing 1 = ((redrawn, .ok ()), (mutateChoosing 1).2))
  exact ⟨⟨afresh, first.1⟩, number, second.1⟩

/-! What a mutation comes to that fails. -/

theorem MeetsString.place (meets : MeetsString p f random) :
    ∃ path text, path ≠ [] ∧ f.subterm? path = some text ∧ text.type = .string := by
  induction meets with
  | here drawn found text => exact ⟨_, _, List.cons_ne_nil _ [], subtermCons found, text⟩
  | deeper drawn found meets ih =>
    obtain ⟨path, text, _, below, string⟩ := ih
    exact ⟨_, text, List.cons_ne_nil _ path, (subtermCons found).trans below, string⟩

theorem refusedUnchanged (set : FeatureSet) (grammar : Grammar) (p : Double) (level : Nat)
    (f : Formula) (random : Random) :
    let out := ((mutate p set.source grammar level f).run random).1
    (out.2 = .ok () ↔ ¬f.MeetsString p random) ∧
      ∀ e, out.2 = .error e → e = .unsupportedGeneration .string ∧ out.1 = f ∧
        ∃ path text, path ≠ [] ∧ f.subterm? path = some text ∧ text.type = .string := by
  intro out
  have mutates : Mutates p set.source grammar level f random out _ := mutateSource set.sourceIndexed rfl
  have refused : ∀ e, out.2 = .error e → e = .unsupportedGeneration .string ∧ out.1 = f ∧
      f.MeetsString p random := fun e failed => mutates.refusal failed
  refine ⟨⟨mutates.passes, fun free => ?_⟩, fun e failed => ?_⟩
  · cases outcome : out.2 with
    | ok => rfl
    | error e => exact absurd (refused e outcome).2.2 free
  · obtain ⟨same, kept, meets⟩ := refused e failed
    exact ⟨same, kept, meets.place⟩

theorem refusedUnchangedChoosing :
    (mutateChoosing 2).1 = (choosing, .error (.unsupportedGeneration .string)) ∧
      ∃ path text, path ≠ [] ∧ choosing.subterm? path = some text ∧ text.type = .string := by
  have told := (refusedUnchanged (FeatureSet.ofList measuredSizes) shallow ⟨0x3fe0000000000000⟩ 0
    choosing ⟨2⟩).2 (.unsupportedGeneration .string)
  have failed : (mutateChoosing 2).1.2 = .error (.unsupportedGeneration .string) := by decide +kernel
  obtain ⟨_, kept, place⟩ := told failed
  exact ⟨Prod.ext kept failed, place⟩

end PassTuner.Formula

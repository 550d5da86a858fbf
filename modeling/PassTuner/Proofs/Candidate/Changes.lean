import PassTuner.Proofs.Candidate.Completion

/-! Candidates after any number of changes.

A candidate begins with nothing in it or with an accepted record. From there on formulas are set,
evolved, drawn where they are missing, and dropped. What a change leaves counts also if it was
refused, before it began or halfway. The entries stay in the order of their names, and each formula
keeps the rules of the grammar and has the type of its own point. -/
namespace PassTuner.Candidate
open Std
open Formula (bare)

/-- A change of a candidate; one at random with the stream that it begins from. -/
inductive Change where
  | insert (point : DecisionPoint) (f : Formula)
  | evolve (p rate : Double) (features : FeatureSource) (grammar : Grammar) (random : Random)
  | fill (features : FeatureSource) (grammar : Grammar) (points : List DecisionPoint)
      (random : Random)
  | retain (points : List DecisionPoint)

/-- Whether a formula that is set keeps the rules of the grammar, as every formula does that was
made by checked constructors. -/
def Change.WellTyped : Change → Prop
  | .insert _ f => f.WellTyped
  | _ => True

instance : DecidablePred Change.WellTyped
  | .insert _ f => inferInstanceAs (Decidable f.WellTyped)
  | .evolve .. => isTrue trivial
  | .fill .. => isTrue trivial
  | .retain _ => isTrue trivial

variable {c d first : Candidate} {point : DecisionPoint} {f : Formula}

def numbered : Candidate := ⟨[(⟨"x", .int⟩, .literal (.int 3))], .two, 3⟩

end PassTuner.Candidate

import PassTuner.Candidate.Basic
import PassTuner.Proofs.Feature.Queries
import PassTuner.Proofs.Formula.Typing

/-! The formulas that a search can come upon.

They are folded, no deeper than the settings allow, without strings, and refer only to features
that have been measured, with the type of their value. What is drawn is of this kind, and a
mutation leaves it so; solving it can fail by division by zero or overflow alone. -/
namespace PassTuner

namespace Formula

variable {p : Double} {set : FeatureSet} {grammar : Grammar} {levels : Nat} {f : Formula}

structure InSpace (set : FeatureSet) (levels : Nat) (f : Formula) : Prop where
  folded : f.simplify = (f, false)
  low : f.depth ≤ levels
  stringless : f.Stringless
  measured : ∀ type ref, .feature type ref ∈ f.nodes →
    ∃ value, set.find? ref = some value ∧ value.type = type
  wellTyped : f.WellTyped

def Measured (set : FeatureSet) (node : Formula) : Prop :=
  ∀ type ref, node = .feature type ref → ∃ value, set.find? ref = some value ∧ value.type = type

theorem measuredLasting (ascending : Sorted.Ascending FeatureSet.entryOrder set.entries) :
    Lasting set.source (Measured set) where
  literal _ _ _ same := by cases same
  named _ found _ _ same := by
    cases same
    exact set.nthMeasured ascending found
  interior inner _ _ _ same := by
    cases same
    contradiction
  head _ holds type ref same := holds type ref (withChildrenFeature same)
  value _ _ _ _ same := by cases same
  renamed found _ _ _ same := by
    cases same
    exact set.nthMeasured ascending found

theorem hereditarySpace (ascending : Sorted.Ascending FeatureSet.entryOrder set.entries) :
    Hereditary p set.source grammar (InSpace set grammar.maxDepth) := by
  have indexed := set.sourceIndexed
  have normal : Hereditary p set.source grammar fun f => f.simplify = (f, false) := hereditaryNormal
  have whole := (normal.and (hereditaryDepth indexed)).and ((hereditaryStringless indexed).and
    (((measuredLasting ascending).hereditary indexed).and hereditaryTyped))
  have space : ∀ f : Formula, ((f.simplify = (f, false) ∧ f.depth ≤ grammar.maxDepth) ∧
      f.Stringless ∧ f.Every (Measured set) ∧ f.WellTyped) ↔ f.InSpace set grammar.maxDepth := by
    intro f
    constructor
    · rintro ⟨⟨folded, low⟩, stringless, measured, wellTyped⟩
      exact ⟨folded, low, stringless, fun type ref mem => measured _ mem type ref rfl, wellTyped⟩
    · rintro ⟨folded, low, stringless, measured, wellTyped⟩
      exact ⟨⟨folded, low⟩, stringless, fun node mem type ref same =>
        measured type ref (same ▸ mem), wellTyped⟩
  simpa only [space] using whole

theorem InSpace.fails (inside : f.InSpace set levels) {e : EvalError}
    (failed : f.solve set.source = .error e) : e = .divisionByZero ∨ ∃ op, e = .overflow op := by
  have safe := safeResult set.sourceTyped inside.wellTyped
  rw [failed] at safe
  cases safe with
  | lookup node absent =>
    obtain ⟨value, found, rfl⟩ := inside.measured _ _ node
    cases (FeatureSet.lookupOk.mpr ⟨found, rfl⟩).symm.trans absent
  | divisionByZero => exact .inl rfl
  | overflow op => exact .inr ⟨op, rfl⟩

end Formula

namespace Candidate

variable {set : FeatureSet} {levels : Nat} {c : Candidate}

structure InSpace (set : FeatureSet) (levels : Nat) (c : Candidate) : Prop where
  formulas : ∀ entry ∈ c.entries, entry.2.InSpace set levels
  fails : ∀ e, c.decide set.source = .error e → e = .divisionByZero ∨ ∃ op, e = .overflow op

theorem decideEntriesFails {entries : List Entry} {decisions : Decisions} {e : EvalError}
    (inside : ∀ entry ∈ entries, entry.2.InSpace set levels)
    (failed : decideEntries set.source entries decisions = .error e) :
    e = .divisionByZero ∨ ∃ op, e = .overflow op := by
  induction entries generalizing decisions with
  | nil => contradiction
  | cons entry rest ih =>
    obtain ⟨point, f⟩ := entry
    obtain ⟨here, later⟩ := List.forall_mem_cons.mp inside
    rw [decideEntries] at failed
    cases solved : f.solve set.source with
    | error cause =>
      rw [solved] at failed
      cases failed
      exact here.fails solved
    | ok value =>
      rw [solved] at failed
      exact ih later failed

theorem inSpace (inside : ∀ entry ∈ c.entries, entry.2.InSpace set levels) :
    c.InSpace set levels :=
  ⟨inside, fun _ failed => decideEntriesFails inside failed⟩

end Candidate

end PassTuner

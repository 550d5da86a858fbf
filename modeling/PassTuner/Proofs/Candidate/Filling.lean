import PassTuner.Candidate.Evolution
import PassTuner.Proofs.Formula.Generation
import PassTuner.Proofs.Order
import PassTuner.Proofs.Sorted

/-! Filling in the points that a candidate has no formula for.

`Fills` has one case for each thing that happens at a point, and `fillMissingSource` is the one
place where the loop is opened. Entries that are there stay as they are. The round ends early at the
first missing point that nothing can be drawn for, which leaves in place what was drawn before. -/
namespace PassTuner.Candidate
open Std

variable {features : FeatureSource} {grammar : Grammar} {points others : List DecisionPoint}
variable {c filled : Candidate} {point : DecisionPoint} {f : Formula} {type : ValueType}
variable {added n : Nat} {random rest : Random} {out : Candidate × Except FormulaError Nat}

def Unscored (c : Candidate) : Prop := c.score = .zero ∧ c.count = 0

instance (c : Candidate) : Decidable c.Unscored :=
  inferInstanceAs (Decidable (c.score = .zero ∧ c.count = 0))

theorem getSome {name : String} :
    (c.get? name).isSome ↔ ∃ entry ∈ c.entries, entry.1.name = name := by
  simp [get?]

theorem placedFresh (lacks : ¬(c.get? point.name).isSome) :
    (Sorted.upsert placeOrder (point, f) c.entries).Perm ((point, f) :: c.entries) :=
  Sorted.upsertFresh fun entry mem same => lacks (getSome.mpr ⟨entry, mem, (sameName same).symm⟩)

theorem placedSize (lacks : ¬(c.get? point.name).isSome) (f : Formula) :
    size { c with entries := Sorted.upsert placeOrder (point, f) c.entries } = c.size + 1 :=
  (placedFresh lacks).length_eq

/-- The points without an entry of their name, in turn. -/
def missing (points : List DecisionPoint) (c : Candidate) : List DecisionPoint :=
  points.filter fun point => (c.get? point.name).isNone

theorem missingKnown (known : (c.get? point.name).isSome) :
    c.missing (point :: others) = c.missing others := by
  simp [missing, Option.isSome_iff_ne_none.mp known]

theorem missingFirst (lacks : ¬(c.get? point.name).isSome) :
    c.missing (point :: others) = point :: c.missing others := by
  simp [missing, Option.not_isSome_iff_eq_none.mp lacks]

theorem missingPlaced (lacks : ¬(c.get? point.name).isSome)
    (distinct : ((point :: others).map DecisionPoint.name).Nodup) :
    { c with entries := Sorted.upsert placeOrder (point, f) c.entries }.missing others =
      c.missing others := by
  refine List.filter_congr fun other mem => ?_
  have apart : point.name ≠ other.name := fun same =>
    (List.nodup_cons.mp distinct).1 (same ▸ List.mem_map_of_mem mem)
  rw [← Option.not_isSome, ← Option.not_isSome, Bool.not_inj_iff, Bool.eq_iff_iff, getSome, getSome]
  simp [(placedFresh lacks).mem_iff, apart]

theorem textRefused (random : Random) :
    (Formula.generate features grammar .string).run.run random =
      (.error (.unsupportedGeneration .string), random) := Formula.generateString random

theorem drawnType
    (ran : (Formula.generate features grammar type).run.run random = (.ok f, rest)) :
    type ≠ .string := by
  rintro rfl
  cases (textRefused random).symm.trans ran

theorem refusedType (indexed : features.Indexed) {e : FormulaError}
    (ran : (Formula.generate features grammar type).run.run random = (.error e, rest)) :
    type = .string ∧ e = .unsupportedGeneration .string := by
  by_cases text : type = .string
  · subst text
    cases (textRefused random).symm.trans ran
    exact ⟨rfl, rfl⟩
  · have yields : (Formula.generate features grammar type).Yields
        (Formula.Grown features grammar (grammar.maxDepth - 0) type) :=
      Formula.generateYields indexed text
    obtain ⟨f, last, drawn, _⟩ := yields random
    cases drawn.symm.trans ran

/-- The points, the candidate before and how many were added to it so far, and the stream before;
what is left, and the stream after. -/
inductive Fills (features : FeatureSource) (grammar : Grammar) : List DecisionPoint → Candidate →
    Nat → Random → Candidate × Except FormulaError Nat → Random → Prop
  | done (c : Candidate) (added : Nat) (random : Random) :
      Fills features grammar [] c added random (if added = 0 then c else c.unscored, .ok added)
        random
  | known {point : DecisionPoint} {others : List DecisionPoint} {c : Candidate} {added : Nat}
      {random rest : Random} {out} (known : (c.get? point.name).isSome)
      (later : Fills features grammar others c added random out rest) :
      Fills features grammar (point :: others) c added random out rest
  | drawn {point : DecisionPoint} {others : List DecisionPoint} {c : Candidate} {f : Formula}
      {added : Nat} {random moved rest : Random} {out} (lacks : ¬(c.get? point.name).isSome)
      (ran : (Formula.generate features grammar point.type).run.run random = (.ok f, moved))
      (later : Fills features grammar others
        { c with entries := Sorted.upsert placeOrder (point, f.simplified) c.entries } (added + 1)
        moved out rest) :
      Fills features grammar (point :: others) c added random out rest
  | refused {point : DecisionPoint} {others : List DecisionPoint} {c : Candidate} {added : Nat}
      {random moved : Random} {e : FormulaError} (lacks : ¬(c.get? point.name).isSome)
      (ran : (Formula.generate features grammar point.type).run.run random = (.error e, moved)) :
      Fills features grammar (point :: others) c added random (c, .error e) moved

theorem fillMissingSource
    (ran : (fillMissing features grammar points c added).run random = (out, rest)) :
    Fills features grammar points c added random out rest := by
  induction points generalizing c added random with
  | nil =>
    cases ran
    exact .done c added _
  | cons point others ih =>
    rw [fillMissing] at ran
    split at ran
    · rename_i known
      exact .known known (ih ran)
    · rename_i lacks
      rw [Random.runBind] at ran
      rcases drawn : (Formula.generate features grammar point.type).run.run random with
        ⟨_ | f, moved⟩
      · rw [drawn] at ran
        cases ran
        exact .refused lacks drawn
      · rw [drawn] at ran
        exact .drawn lacks drawn (ih ran)

namespace Fills

theorem kept (fills : Fills features grammar points c added random out rest) :
    ∀ entry ∈ c.entries, entry ∈ out.1.entries := by
  induction fills with
  | done c added random =>
    split
    · exact fun _ mem => mem
    · exact fun _ mem => mem
  | known known later ih => exact ih
  | drawn lacks ran later ih =>
    intro entry mem
    exact ih entry ((placedFresh lacks).mem_iff.mpr (List.mem_cons_of_mem _ mem))
  | refused lacks ran => exact fun _ mem => mem

/-- Nothing comes in but folded formulas, each under one of the points. -/
theorem source (fills : Fills features grammar points c added random out rest) :
    ∀ entry ∈ out.1.entries, entry ∈ c.entries ∨ entry.1 ∈ points ∧
      ∃ f before after, entry.2 = f.simplified ∧
        (Formula.generate features grammar entry.1.type).run.run before = (.ok f, after) := by
  induction fills with
  | done c added random =>
    split
    · exact fun _ mem => .inl mem
    · exact fun _ mem => .inl mem
  | known known later ih =>
    intro entry mem
    exact (ih entry mem).imp_right fun fresh => ⟨List.mem_cons_of_mem _ fresh.1, fresh.2⟩
  | drawn lacks ran later ih =>
    intro entry mem
    rcases ih entry mem with old | fresh
    · rcases List.mem_cons.mp ((placedFresh lacks).mem_iff.mp old) with rfl | old
      · exact .inr ⟨List.mem_cons_self, _, _, _, rfl, ran⟩
      · exact .inl old
    · exact .inr ⟨List.mem_cons_of_mem _ fresh.1, fresh.2⟩
  | refused lacks ran => exact fun _ mem => .inl mem

theorem ascending (fills : Fills features grammar points c added random out rest)
    (before : Sorted.Ascending placeOrder c.entries) :
    Sorted.Ascending placeOrder out.1.entries := by
  induction fills with
  | done c added random =>
    split
    · exact before
    · exact before
  | known known later ih => exact ih before
  | drawn lacks ran later ih => exact ih (Sorted.upsertAscending before _)
  | refused lacks ran => exact before

theorem sizeLeast (fills : Fills features grammar points c added random out rest) :
    c.size ≤ out.1.size := by
  induction fills with
  | done c added random =>
    split
    · exact Nat.le_refl _
    · exact Nat.le_refl _
  | known known later ih => exact ih
  | drawn lacks ran later ih => exact Nat.le_trans (Sorted.upsertLength _ _) ih
  | refused lacks ran => exact Nat.le_refl _

theorem complete (fills : Fills features grammar points c added random (filled, .ok n) rest) :
    ∀ point ∈ points, (filled.get? point.name).isSome := by
  generalize result : (filled, Except.ok n) = out at fills
  induction fills with
  | done c added random => exact nofun
  | known known later ih =>
    cases result
    obtain ⟨entry, mem, named⟩ := getSome.mp known
    exact List.forall_mem_cons.mpr ⟨getSome.mpr ⟨entry, later.kept entry mem, named⟩, ih rfl⟩
  | drawn lacks ran later ih =>
    cases result
    have here := later.kept _ (Sorted.upsertSelf _ _)
    exact List.forall_mem_cons.mpr ⟨getSome.mpr ⟨_, here, rfl⟩, ih rfl⟩
  | refused lacks ran => cases result

theorem size (fills : Fills features grammar points c added random (filled, .ok n) rest) :
    c.size + n = filled.size + added := by
  generalize result : (filled, Except.ok n) = out at fills
  induction fills with
  | done c added random =>
    cases result
    split
    · rfl
    · rfl
  | known known later ih => exact ih result
  | drawn lacks ran later ih =>
    have total := ih result
    rw [placedSize lacks] at total
    omega
  | refused lacks ran => cases result

/-! What becomes of the score, and how the round ends. -/

theorem carries (fills : Fills features grammar points c added random (filled, .ok n) rest) :
    filled.Unscored ∨ added = 0 ∧ filled = c := by
  generalize result : (filled, Except.ok n) = out at fills
  induction fills with
  | done c added random =>
    cases result
    split
    · rename_i none
      exact .inr ⟨none, rfl⟩
    · exact .inl ⟨rfl, rfl⟩
  | known known later ih => exact ih result
  | drawn lacks ran later ih =>
    exact (ih result).imp_right fun same => absurd same.1 (Nat.succ_ne_zero _)
  | refused lacks ran => cases result

theorem halted {e : FormulaError}
    (fills : Fills features grammar points c added random (filled, .error e) rest) :
    filled.score = c.score ∧ filled.count = c.count := by
  generalize result : (filled, Except.error e) = out at fills
  induction fills with
  | done c added random => cases result
  | known known later ih => exact ih result
  | drawn lacks ran later ih => exact ih result
  | refused lacks ran =>
    cases result
    exact ⟨rfl, rfl⟩

theorem refusal {e : FormulaError}
    (fills : Fills features grammar points c added random (filled, .error e) rest)
    (indexed : features.Indexed) : e = .unsupportedGeneration .string := by
  generalize result : (filled, Except.error e) = out at fills
  induction fills with
  | done c added random => cases result
  | known known later ih => exact ih result
  | drawn lacks ran later ih => exact ih result
  | refused lacks ran =>
    cases result
    exact (refusedType indexed ran).2

/-- Anything changes only if there is something to draw for the first of the missing points. -/
theorem changed (fills : Fills features grammar points c added random out rest)
    (indexed : features.Indexed) : out.1.entries ≠ c.entries ↔
      ∃ first later, c.missing points = first :: later ∧ first.type ≠ .string := by
  induction fills with
  | done c added random => split <;> simp [missing, Candidate.unscored]
  | known known later ih => rw [missingKnown known, ih]
  | drawn lacks ran later ih =>
    rw [missingFirst lacks]
    refine iff_of_true (fun same => ?_) ⟨_, _, rfl, drawnType ran⟩
    have grown := later.sizeLeast
    rw [placedSize lacks, Candidate.size, Candidate.size, same] at grown
    exact Nat.not_succ_le_self _ grown
  | refused lacks ran =>
    rw [missingFirst lacks]
    refine iff_of_false (not_not_intro rfl) ?_
    rintro ⟨first, later, same, drawable⟩
    cases same
    exact drawable (refusedType indexed ran).1

theorem fails (fills : Fills features grammar points c added random out rest)
    (indexed : features.Indexed) (distinct : (points.map DecisionPoint.name).Nodup) :
    (∃ e, out.2 = .error e) ↔ ∃ point ∈ c.missing points, point.type = .string := by
  induction fills with
  | done c added random => simp [missing]
  | known known later ih => rw [missingKnown known, ih (List.nodup_cons.mp distinct).2]
  | drawn lacks ran later ih =>
    rw [ih (List.nodup_cons.mp distinct).2, missingPlaced lacks distinct, missingFirst lacks]
    simp [drawnType ran]
  | refused lacks ran =>
    rw [missingFirst lacks]
    exact iff_of_true ⟨_, rfl⟩ ⟨_, List.mem_cons_self, (refusedType indexed ran).1⟩

theorem yields (fills : Fills features grammar points c added random out rest)
    (indexed : features.Indexed) (drawable : ∀ point ∈ points, point.type ≠ .string) :
    ∃ filled n, out = (filled, .ok n) := by
  induction fills with
  | done c added random => exact ⟨_, added, rfl⟩
  | known known later ih => exact ih (List.forall_mem_cons.mp drawable).2
  | drawn lacks ran later ih => exact ih (List.forall_mem_cons.mp drawable).2
  | refused lacks ran =>
    exact absurd (refusedType indexed ran).1 (List.forall_mem_cons.mp drawable).1

end Fills

theorem fillMissingKnown (known : ∀ point ∈ points, (c.get? point.name).isSome) :
    (fillMissing features grammar points c 0).run random = ((c, .ok 0), random) := by
  induction points with
  | nil => rfl
  | cons point others ih =>
    obtain ⟨here, later⟩ := List.forall_mem_cons.mp known
    rw [fillMissing, if_pos here]
    exact ih later

theorem fillMissingYields (indexed : features.Indexed)
    (drawable : ∀ point ∈ points, point.type ≠ .string) (c : Candidate) (added : Nat)
    (random : Random) :
    ∃ filled n rest, (fillMissing features grammar points c added).run random =
      ((filled, .ok n), rest) := by
  rcases ran : (fillMissing features grammar points c added).run random with ⟨out, rest⟩
  obtain ⟨filled, n, rfl⟩ := (fillMissingSource ran).yields indexed drawable
  exact ⟨filled, n, rest, rfl⟩

end PassTuner.Candidate

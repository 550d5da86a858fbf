import PassTuner.Proofs.Formula.Foldable

/-! Folding makes formulas smaller.

Folding either finds nothing to do, says so and leaves the formula as it is, or it says that there
was something, and the result has fewer nodes. Nothing in between happens: no change goes untold,
and none is told that did not take place. What a formula refers to it has referred to before. -/
namespace PassTuner.Formula

inductive Shrinks (f : Formula) : Formula × Bool → Prop
  | same : Shrinks f (f, false)
  | fewer {g : Formula} (fewer : g.size < f.size) : Shrinks f (g, true)

variable {f lhs rhs : Formula} {l r result : Formula × Bool}

theorem sizePositive (f : Formula) : 0 < f.size := by
  cases f <;> simp only [size] <;> omega

theorem Shrinks.size (shrinks : Shrinks f result) : result.1.size ≤ f.size := by
  cases shrinks with
  | same => exact Nat.le_refl _
  | fewer fewer => exact Nat.le_of_lt fewer

theorem Shrinks.told (shrinks : Shrinks f result) :
    (result.2 = true ↔ result.1 ≠ f) ∧ (result.1 ≠ f → result.1.size < f.size) := by
  cases shrinks with
  | same => simp
  | fewer fewer =>
    refine ⟨iff_of_true rfl ?_, fun _ => fewer⟩
    rintro rfl
    exact Nat.lt_irrefl _ fewer

theorem combinedShrinks {node : Formula → Formula → Formula}
    {apply : Value → Value → Except EvalError Value}
    (counts : ∀ a b, (node a b).size = 1 + (a.size + b.size))
    (left : Shrinks lhs l) (right : Shrinks rhs r) :
    Shrinks (node lhs rhs) (combined node apply l r) := by
  rw [combined]
  cases fold? apply l.1 r.1 with
  | some value =>
    have operands := lhs.sizePositive
    exact .fewer (by simp only [counts, size]; omega)
  | none =>
    -- one operand that has shrunk is enough, whatever became of the other
    cases left with
    | same =>
      cases right with
      | same => exact .same
      | fewer fewer => exact .fewer (by simp only [counts]; omega)
    | fewer fewer =>
      have other := right.size
      exact .fewer (by simp only [counts]; omega)

theorem simplifyShrinks (f : Formula) : Shrinks f f.simplify := by
  induction f with
  | literal value => exact .same
  | feature type ref => exact .same
  | arithmetic type op lhs rhs left right => exact combinedShrinks (fun _ _ => rfl) left right
  | boolean operandType op lhs rhs left right => exact combinedShrinks (fun _ _ => rfl) left right
  | conditional type condition whenTrue whenFalse test onTrue onFalse =>
    by_cases taken : ∃ b, condition.simplified = .literal (.bool b)
    · obtain ⟨b, taken⟩ := taken
      rw [conditionalTaken taken]
      have branch : (if b then whenTrue else whenFalse).simplified.size ≤
          whenTrue.size + whenFalse.size := by
        cases b with
        | true => exact Nat.le_add_right_of_le onTrue.size
        | false => exact Nat.le_add_left_of_le onFalse.size
      exact .fewer (by simp only [size]; omega)
    · rw [conditionalKept (not_exists.mp taken)]
      simp only [simplified]
      have testSize := test.size
      have trueSize := onTrue.size
      have falseSize := onFalse.size
      generalize condition.simplify = c, whenTrue.simplify = t, whenFalse.simplify = e at *
      cases test with
      | fewer fewer => exact .fewer (by simp only [size]; omega)
      | same =>
        cases onTrue with
        | fewer fewer => exact .fewer (by simp only [size]; omega)
        | same =>
          cases onFalse with
          | fewer fewer => exact .fewer (by simp only [size]; omega)
          | same => exact .same

theorem simplifiedFeatures {type : ValueType} {ref : FeatureRef}
    (mem : .feature type ref ∈ f.simplified.nodes) : .feature type ref ∈ f.nodes := by
  have known : f.Every fun node => ∀ type ref, node = .feature type ref → node ∈ f.nodes :=
    fun node inside _ _ _ => inside
  refine known.simplified ?_ ?_ _ mem type ref rfl
  · rintro value _ type ref ⟨⟩
  · intro node children holds type ref same
    have leaf := withChildrenFeature same
    rw [same, ← leaf]
    exact holds type ref leaf

theorem simplifiedSmaller (f : Formula) :
    (f.simplify.2 = true ↔ f.simplified ≠ f) ∧
      (f.simplified ≠ f → f.simplified.size < f.size) ∧
      f.simplified.depth ≤ f.depth ∧
      ∀ type ref, .feature type ref ∈ f.simplified.nodes → .feature type ref ∈ f.nodes := by
  obtain ⟨told, smaller⟩ := (simplifyShrinks f).told
  exact ⟨told, smaller, simplifiedDepth f, fun _ _ => simplifiedFeatures⟩

end PassTuner.Formula

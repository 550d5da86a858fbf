import PassTuner.Formula.Simplification

/-! Constant folding and evaluation.

Folding keeps the value of a formula, and its error if it has none, for every source of features.
Types play no part in it, so ill-typed formulas are covered. Nothing is said here of how far
folding gets. -/
namespace PassTuner.Formula

variable {apply : Value → Value → Except EvalError Value}

theorem foldedOperands {lhs rhs value} (folded : fold? apply lhs rhs = some value) :
    ∃ a b, lhs = .literal a ∧ rhs = .literal b ∧ apply a b = .ok value ∧
      value.isNonFinite = false := by
  unfold fold? at folded
  split at folded <;> try contradiction
  rename_i a b
  split at folded <;> try contradiction
  rename_i result applied
  split at folded <;> try contradiction
  rename_i finite
  cases Option.some.inj folded
  exact ⟨a, b, rfl, rfl, applied, by simpa using finite⟩

theorem foldedValue {lhs rhs value} (features : FeatureSource)
    (folded : fold? apply lhs rhs = some value) :
    (do let a ← lhs.solve features
        let b ← rhs.solve features
        apply a b) = .ok value := by
  obtain ⟨a, b, rfl, rfl, applied, _⟩ := foldedOperands folded
  exact applied

theorem literalCondition {condition : Formula} {value} {features : FeatureSource}
    (same : condition.simplified.solve features = condition.solve features)
    (literal : condition.simplify.1 = .literal value) : condition.solve features = .ok value := by
  rw [← same, simplified, literal]
  rfl

theorem solveSimplified (features : FeatureSource) (f : Formula) :
    f.simplified.solve features = f.solve features := by
  induction f with
  | literal value => rfl
  | feature type ref => rfl
  | arithmetic type op lhs rhs left right =>
    have operands : (do let a ← lhs.simplified.solve features
                        let b ← rhs.simplified.solve features
                        op.apply a b) = (arithmetic type op lhs rhs).solve features := by
      rw [left, right, solve]
    simp only [simplified, simplify] at operands ⊢
    split
    · rename_i value folded
      rw [← operands, foldedValue features folded, solve]
    · rw [← operands, solve]
  | boolean operandType op lhs rhs left right =>
    have operands : (do let a ← lhs.simplified.solve features
                        let b ← rhs.simplified.solve features
                        op.apply a b) = (boolean operandType op lhs rhs).solve features := by
      rw [left, right, solve]
    simp only [simplified, simplify] at operands ⊢
    split
    · rename_i value folded
      rw [← operands, foldedValue features folded, solve]
    · rw [← operands, solve]
  | conditional type condition whenTrue whenFalse test onTrue onFalse =>
    -- a condition that folds has a value, so the other branch is not solved on either side
    simp only [simplified, simplify]
    split
    · rename_i taken
      have holds := literalCondition test (congrArg Prod.fst taken)
      simp only [solve, holds]
      exact onTrue
    · rename_i taken
      have fails := literalCondition test (congrArg Prod.fst taken)
      simp only [solve, fails]
      exact onFalse
    · rename_i kept changed _ _ same
      have stays : kept.solve features = condition.solve features := by
        rw [← test, simplified, same]
      simp only [simplified] at onTrue onFalse
      simp only [solve, stays, onTrue, onFalse]

end PassTuner.Formula

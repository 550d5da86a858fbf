import PassTuner.Formula.Basic

/-! Evaluation of formulas, from the leaves up and from left to right.

A conditional evaluates its condition and then only the branch taken. -/
namespace PassTuner.Formula

def solve (features : FeatureSource) : Formula → Except EvalError Value
  | .literal value => .ok value
  | .arithmetic _ op lhs rhs => do
    let a ← lhs.solve features
    let b ← rhs.solve features
    op.apply a b
  | .boolean _ op lhs rhs => do
    let a ← lhs.solve features
    let b ← rhs.solve features
    op.apply a b
  | .conditional _ condition whenTrue whenFalse => do
    match ← condition.solve features with
    | .bool true => whenTrue.solve features
    | .bool false => whenFalse.solve features
    | other => .error (.typeMismatch "if" other.type .bool)
  | .feature type ref =>
    match features.lookup ref type with
    | .ok value => .ok value
    | .error cause => .error (.feature cause)

end PassTuner.Formula

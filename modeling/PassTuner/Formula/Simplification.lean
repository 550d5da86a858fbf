import PassTuner.Formula.Evaluation

/-! Constant folding.

A binary node over two literals becomes the literal of its value, computed by the very operation
that evaluation uses; it stays if that operation fails or gives a float that is not finite. A
conditional on a literal becomes its simplified branch, and the other branch is dropped unseen. -/
namespace PassTuner.Formula

/-- The literal that a binary node over these operands becomes, if any. -/
def fold? (apply : Value → Value → Except EvalError Value) : Formula → Formula → Option Value
  | .literal a, .literal b =>
    match apply a b with
    | .ok value => if value.isNonFinite then none else some value
    | .error _ => none
  | _, _ => none

/-- The simplified formula, and whether anything changed. -/
def simplify : Formula → Formula × Bool
  | .literal value => (.literal value, false)
  | .feature type ref => (.feature type ref, false)
  | .arithmetic type op lhs rhs =>
    let (lhs, lhsChanged) := lhs.simplify
    let (rhs, rhsChanged) := rhs.simplify
    match fold? op.apply lhs rhs with
    | some value => (.literal value, true)
    | none => (.arithmetic type op lhs rhs, lhsChanged || rhsChanged)
  | .boolean operandType op lhs rhs =>
    let (lhs, lhsChanged) := lhs.simplify
    let (rhs, rhsChanged) := rhs.simplify
    match fold? op.apply lhs rhs with
    | some value => (.literal value, true)
    | none => (.boolean operandType op lhs rhs, lhsChanged || rhsChanged)
  | .conditional type condition whenTrue whenFalse =>
    match condition.simplify with
    | (.literal (.bool true), _) => (whenTrue.simplify.1, true)
    | (.literal (.bool false), _) => (whenFalse.simplify.1, true)
    | (condition, conditionChanged) =>
      let (whenTrue, trueChanged) := whenTrue.simplify
      let (whenFalse, falseChanged) := whenFalse.simplify
      (.conditional type condition whenTrue whenFalse, conditionChanged || trueChanged || falseChanged)

def simplified (f : Formula) : Formula := f.simplify.1

end PassTuner.Formula

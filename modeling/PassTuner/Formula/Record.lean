import PassTuner.Formula.Basic

/-! Formula records: what is stored of a formula.

Every record declares the type of its node, and a boolean record that of its operands, too.
Rebuilding a formula checks every rule again: children first, then the node itself, then the
types that were declared. -/
namespace PassTuner

inductive FormulaRecord where
  | literal (declared : ValueType) (value : Value)
  | arithmetic (declared : ValueType) (op : ArithOp) (lhs rhs : FormulaRecord)
  | boolean (declared operandType : ValueType) (op : BoolOp) (lhs rhs : FormulaRecord)
  | conditional (declared : ValueType) (condition whenTrue whenFalse : FormulaRecord)
  | feature (declared : ValueType) (ref : FeatureRef)
  deriving DecidableEq, Repr, Inhabited

def Formula.toRecord : Formula → FormulaRecord
  | .literal value => .literal value.type value
  | .arithmetic type op lhs rhs => .arithmetic type op lhs.toRecord rhs.toRecord
  | .boolean operandType op lhs rhs => .boolean .bool operandType op lhs.toRecord rhs.toRecord
  | .conditional type condition whenTrue whenFalse =>
    .conditional type condition.toRecord whenTrue.toRecord whenFalse.toRecord
  | .feature type ref => .feature type ref

/-- A formula, if it has the type that was declared. -/
def Formula.declaredAs (declared : ValueType) (f : Formula) : Except FormulaError Formula :=
  if f.type = declared then .ok f else .error (.typeMismatch declared f.type)

def Formula.ofRecord : FormulaRecord → Except FormulaError Formula
  | .literal declared value =>
    if value.type = declared then .ok (.literal value)
    else .error (.literalType declared value.type)
  | .arithmetic declared op lhs rhs => do
    let lhs ← ofRecord lhs
    let rhs ← ofRecord rhs
    let f ← arithmetic? op lhs rhs
    f.declaredAs declared
  | .boolean declared operandType op lhs rhs => do
    let lhs ← ofRecord lhs
    let rhs ← ofRecord rhs
    let f ← boolean? op lhs rhs
    if lhs.type = operandType then f.declaredAs declared
    else .error (.typeMismatch operandType lhs.type)
  | .conditional declared condition whenTrue whenFalse => do
    let condition ← ofRecord condition
    let whenTrue ← ofRecord whenTrue
    let whenFalse ← ofRecord whenFalse
    let f ← conditional? condition whenTrue whenFalse
    f.declaredAs declared
  | .feature declared ref => .ok (.feature declared ref)

end PassTuner

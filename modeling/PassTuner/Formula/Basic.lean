import PassTuner.Formula.Operator

/-! Formulas: typed expression trees over literals and features.

The checked constructors refuse operands that do not fit. `WellTyped` says the same of a whole
tree, node by node. -/
namespace PassTuner

/-- The kinds of nodes, in their order. -/
inductive FormulaKind where
  | literal
  | arithmetic
  | boolean
  | conditional
  | feature
  deriving DecidableEq, Repr, Inhabited

namespace FormulaKind

def all : List FormulaKind := [.literal, .arithmetic, .boolean, .conditional, .feature]

def name : FormulaKind → String
  | .literal => "Literal"
  | .arithmetic => "Arithmetic"
  | .boolean => "Boolean"
  | .conditional => "Conditional"
  | .feature => "Feature"

def rank : FormulaKind → Nat
  | .literal => 0
  | .arithmetic => 1
  | .boolean => 2
  | .conditional => 3
  | .feature => 4

def weight : FormulaKind → Nat
  | .literal => 4
  | .arithmetic => 2
  | .boolean => 2
  | .conditional => 1
  | .feature => 3

def isLeaf : FormulaKind → Bool
  | .literal | .feature => true
  | .arithmetic | .boolean | .conditional => false

end FormulaKind

/-- An expression tree. A boolean node has the type of its operands; every other node that is
not a literal has its own. -/
inductive Formula where
  | literal (value : Value)
  | arithmetic (type : ValueType) (op : ArithOp) (lhs rhs : Formula)
  | boolean (operandType : ValueType) (op : BoolOp) (lhs rhs : Formula)
  | conditional (type : ValueType) (condition whenTrue whenFalse : Formula)
  | feature (type : ValueType) (feature : FeatureRef)
  deriving DecidableEq, Repr, Inhabited

/-- Which rule of the formula grammar is broken. -/
inductive FormulaError where
  | arithmeticOperands (lhs rhs : ValueType)
  | booleanOperands (lhs rhs : ValueType)
  | invalidOperator (op : BoolOp) (operandType : ValueType)
  | nonBoolCondition (actual : ValueType)
  | branchMismatch (whenTrue whenFalse : ValueType)
  | literalType (expected actual : ValueType)
  | unsupportedGeneration (type : ValueType)
  | typeMismatch (expected actual : ValueType)
  deriving DecidableEq, Repr

def FormulaError.message : FormulaError → String
  | .arithmeticOperands lhs rhs =>
    "arithmetic operands must be numeric and share a type, got " ++ lhs.name ++ " and " ++ rhs.name
  | .booleanOperands lhs rhs =>
    "boolean operands must share a type, got " ++ lhs.name ++ " and " ++ rhs.name
  | .invalidOperator op operandType =>
    "operator " ++ op.symbol ++ " is not defined for " ++ operandType.name ++ " operands"
  | .nonBoolCondition actual => "conditional requires a bool condition, got " ++ actual.name
  | .branchMismatch whenTrue whenFalse =>
    "conditional branches disagree: " ++ whenTrue.name ++ " vs " ++ whenFalse.name
  | .literalType expected actual =>
    "literal of type " ++ actual.name ++ " where " ++ expected.name ++ " was declared"
  | .unsupportedGeneration type => "formula generation is not supported for " ++ type.name ++ " values"
  | .typeMismatch expected actual =>
    "expected a formula of type " ++ expected.name ++ ", got " ++ actual.name

namespace Formula

def type : Formula → ValueType
  | .literal value => value.type
  | .arithmetic type _ _ _ => type
  | .boolean _ _ _ _ => .bool
  | .conditional type _ _ _ => type
  | .feature type _ => type

def kind : Formula → FormulaKind
  | .literal _ => .literal
  | .arithmetic _ _ _ _ => .arithmetic
  | .boolean _ _ _ _ => .boolean
  | .conditional _ _ _ _ => .conditional
  | .feature _ _ => .feature

def asLiteral? : Formula → Option Value
  | .literal value => some value
  | _ => none

def children : Formula → List Formula
  | .literal _ | .feature _ _ => []
  | .arithmetic _ _ lhs rhs | .boolean _ _ lhs rhs => [lhs, rhs]
  | .conditional _ condition whenTrue whenFalse => [condition, whenTrue, whenFalse]

/-- The same node over other children; a list of the wrong length changes nothing. -/
def withChildren : Formula → List Formula → Formula
  | .arithmetic type op _ _, [lhs, rhs] => .arithmetic type op lhs rhs
  | .boolean operandType op _ _, [lhs, rhs] => .boolean operandType op lhs rhs
  | .conditional type _ _ _, [condition, whenTrue, whenFalse] =>
    .conditional type condition whenTrue whenFalse
  | f, _ => f

/-- Exchange two children, without a look at their types. -/
def swapChildren (a b : Nat) (f : Formula) : Formula :=
  match f.children[a]?, f.children[b]? with
  | some atA, some atB => f.withChildren ((f.children.set a atB).set b atA)
  | _, _ => f

def size : Formula → Nat
  | .literal _ | .feature _ _ => 1
  | .arithmetic _ _ lhs rhs | .boolean _ _ lhs rhs => 1 + (lhs.size + rhs.size)
  | .conditional _ condition whenTrue whenFalse =>
    1 + (condition.size + whenTrue.size + whenFalse.size)

/-- Edges on the longest path from the root to a leaf. -/
def depth : Formula → Nat
  | .literal _ | .feature _ _ => 0
  | .arithmetic _ _ lhs rhs | .boolean _ _ lhs rhs => max lhs.depth rhs.depth + 1
  | .conditional _ condition whenTrue whenFalse =>
    max condition.depth (max whenTrue.depth whenFalse.depth) + 1

def arithmetic? (op : ArithOp) (lhs rhs : Formula) : Except FormulaError Formula :=
  if lhs.type = rhs.type ∧ lhs.type.isNumeric then .ok (.arithmetic lhs.type op lhs rhs)
  else .error (.arithmeticOperands lhs.type rhs.type)

/-- A boolean node over operands of one type that has the operator. -/
def boolean? (op : BoolOp) (lhs rhs : Formula) : Except FormulaError Formula :=
  if lhs.type ≠ rhs.type then .error (.booleanOperands lhs.type rhs.type)
  else if op.isDefinedFor lhs.type then .ok (.boolean lhs.type op lhs rhs)
  else .error (.invalidOperator op lhs.type)

/-- A conditional with a boolean condition and branches of one type. -/
def conditional? (condition whenTrue whenFalse : Formula) : Except FormulaError Formula :=
  if condition.type ≠ .bool then .error (.nonBoolCondition condition.type)
  else if whenTrue.type ≠ whenFalse.type then
    .error (.branchMismatch whenTrue.type whenFalse.type)
  else .ok (.conditional whenTrue.type condition whenTrue whenFalse)

def WellTyped : Formula → Prop
  | .literal _ | .feature _ _ => True
  | .arithmetic type _ lhs rhs =>
    lhs.type = type ∧ rhs.type = type ∧ type.isNumeric ∧ lhs.WellTyped ∧ rhs.WellTyped
  | .boolean operandType op lhs rhs =>
    lhs.type = operandType ∧ rhs.type = operandType ∧ op.isDefinedFor operandType ∧
      lhs.WellTyped ∧ rhs.WellTyped
  | .conditional type condition whenTrue whenFalse =>
    condition.type = .bool ∧ whenTrue.type = type ∧ whenFalse.type = type ∧
      condition.WellTyped ∧ whenTrue.WellTyped ∧ whenFalse.WellTyped

instance decidableWellTyped : (f : Formula) → Decidable f.WellTyped
  | .literal _ | .feature _ _ => .isTrue trivial
  | .arithmetic _ _ lhs rhs | .boolean _ _ lhs rhs =>
    have := decidableWellTyped lhs
    have := decidableWellTyped rhs
    inferInstanceAs (Decidable (_ ∧ _ ∧ _ ∧ _ ∧ _))
  | .conditional _ condition whenTrue whenFalse =>
    have := decidableWellTyped condition
    have := decidableWellTyped whenTrue
    have := decidableWellTyped whenFalse
    inferInstanceAs (Decidable (_ ∧ _ ∧ _ ∧ _ ∧ _ ∧ _))

end Formula

end PassTuner

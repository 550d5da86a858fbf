import PassTuner.Formula.Evaluation
import PassTuner.Proofs.Feature.Queries
import PassTuner.Proofs.Formula.Nodes

/-! Evaluation of well-typed formulas.

The constructors' rules, the tables of operators and the two operations on values agree: operands
that a checked constructor accepts never meet the type error of an operation. What remains are
failed look-ups, division by zero and overflow. -/
namespace PassTuner

/-- A source whose values have the type that was asked for. -/
def FeatureSource.Typed (features : FeatureSource) : Prop :=
  ∀ ref type value, features.lookup ref type = .ok value → value.type = type

theorem FeatureSet.sourceTyped (set : FeatureSet) : set.source.Typed :=
  fun _ _ _ found => (lookupOk.mp found).2

theorem ArithOp.applyNumeric (op : ArithOp) {a b : Value} {type : ValueType}
    (left : a.type = type) (right : b.type = type) (numeric : type.isNumeric) :
    (∃ value, op.apply a b = .ok value ∧ value.type = type) ∨
      op.apply a b = .error .divisionByZero ∨ op.apply a b = .error (.overflow op) := by
  cases a <;> cases b <;> simp only [Value.type] at left right <;> subst left <;>
    simp [ValueType.isNumeric] at right numeric
  case int i j =>
    simp only [apply]
    split
    · exact .inr (.inl rfl)
    · split
      · exact .inl ⟨_, rfl, rfl⟩
      · exact .inr (.inr rfl)
  case float x y => exact .inl ⟨_, rfl, rfl⟩

theorem BoolOp.onBoolDefined {op : BoolOp} (defined : op.isDefinedFor .bool) (a b : Bool) :
    ∃ result, op.onBool a b = some result := by
  cases op <;> simp [isDefinedFor, forOperand, logical] at defined <;> exact ⟨_, rfl⟩

theorem BoolOp.applyDefined {op : BoolOp} {a b : Value} {type : ValueType}
    (left : a.type = type) (right : b.type = type) (defined : op.isDefinedFor type) :
    ∃ result, op.apply a b = .ok (.bool result) := by
  subst left
  simp only [apply, right, defined, and_self, ↓reduceIte]
  cases a <;> cases b <;> simp only [Value.type, reduceCtorEq] at right
  case bool x y =>
    obtain ⟨result, some⟩ := onBoolDefined defined x y
    exact ⟨result, by simp only [some]⟩
  all_goals exact ⟨_, rfl⟩

namespace Formula

/-- What a formula of sound types may come to. -/
inductive SafeResult (features : FeatureSource) (f : Formula) : Except EvalError Value → Prop
  | value {value : Value} (typed : value.type = f.type) : SafeResult features f (.ok value)
  | lookup {type : ValueType} {ref : FeatureRef} {cause : FeatureError}
      (node : .feature type ref ∈ f.nodes) (failed : features.lookup ref type = .error cause) :
      SafeResult features f (.error (.feature cause))
  | divisionByZero : SafeResult features f (.error .divisionByZero)
  | overflow (op : ArithOp) : SafeResult features f (.error (.overflow op))

theorem SafeResult.bind {features : FeatureSource} {f child : Formula} {result}
    {next : Value → Except EvalError Value} (safe : SafeResult features child result)
    (mem : child ∈ f.children)
    (after : ∀ value, value.type = child.type → SafeResult features f (next value)) :
    SafeResult features f (result >>= next) := by
  cases safe with
  | value typed => exact after _ typed
  | lookup node failed => exact .lookup (childNodes mem node) failed
  | divisionByZero => exact .divisionByZero
  | overflow op => exact .overflow op

theorem SafeResult.branch {features : FeatureSource} {f child : Formula} {result}
    (safe : SafeResult features child result) (mem : child ∈ f.children)
    (same : child.type = f.type) : SafeResult features f result := by
  cases safe with
  | value typed => exact .value (typed.trans same)
  | lookup node failed => exact .lookup (childNodes mem node) failed
  | divisionByZero => exact .divisionByZero
  | overflow op => exact .overflow op

theorem SafeResult.ofArithmetic {features : FeatureSource} {f : Formula} (op : ArithOp)
    {a b : Value} (left : a.type = f.type) (right : b.type = f.type) (numeric : f.type.isNumeric) :
    SafeResult features f (op.apply a b) := by
  rcases op.applyNumeric left right numeric with ⟨value, applied, typed⟩ | failed | failed
  · rw [applied]; exact .value typed
  · rw [failed]; exact .divisionByZero
  · rw [failed]; exact .overflow op

theorem SafeResult.notMismatch {features : FeatureSource} {f : Formula} {result}
    (safe : SafeResult features f result) (op lhs rhs) :
    result ≠ .error (.typeMismatch op lhs rhs) := by
  cases safe <;> simp

theorem safeResult {features : FeatureSource} (typed : features.Typed) {f : Formula}
    (wellTyped : f.WellTyped) : SafeResult features f (f.solve features) := by
  induction f with
  | literal value => exact .value rfl
  | feature type ref =>
    simp only [solve]
    split
    · rename_i value found
      exact .value (typed ref type value found)
    · rename_i cause failed
      exact .lookup (selfNode _) failed
  | arithmetic type op lhs rhs left right =>
    obtain ⟨lhsType, rhsType, numeric, lhsTyped, rhsTyped⟩ := wellTyped
    refine (left lhsTyped).bind (by simp [children]) fun a leftType => ?_
    refine (right rhsTyped).bind (by simp [children]) fun b rightType => ?_
    exact .ofArithmetic op (leftType.trans lhsType) (rightType.trans rhsType) numeric
  | boolean operandType op lhs rhs left right =>
    obtain ⟨lhsType, rhsType, defined, lhsTyped, rhsTyped⟩ := wellTyped
    refine (left lhsTyped).bind (by simp [children]) fun a leftType => ?_
    refine (right rhsTyped).bind (by simp [children]) fun b rightType => ?_
    obtain ⟨result, applied⟩ :=
      BoolOp.applyDefined (leftType.trans lhsType) (rightType.trans rhsType) defined
    rw [applied]
    exact .value rfl
  | conditional type condition whenTrue whenFalse test onTrue onFalse =>
    obtain ⟨conditionType, trueType, falseType, conditionTyped, trueTyped, falseTyped⟩ := wellTyped
    refine (test conditionTyped).bind (by simp [children]) fun value valueType => ?_
    -- a condition of boolean type leaves no other value
    cases value with
    | bool taken =>
      cases taken with
      | true => exact (onTrue trueTyped).branch (by simp [children]) trueType
      | false => exact (onFalse falseTyped).branch (by simp [children]) falseType
    | int i => simp [Value.type, conditionType] at valueType
    | float x => simp [Value.type, conditionType] at valueType
    | string s => simp [Value.type, conditionType] at valueType

theorem solvedType {features : FeatureSource} (typed : features.Typed) {f : Formula}
    (wellTyped : f.WellTyped) {value : Value} (solved : f.solve features = .ok value) :
    value.type = f.type := by
  have safe := safeResult typed wellTyped
  rw [solved] at safe
  cases safe with
  | value same => exact same

theorem solveSafe {features : FeatureSource} (typed : features.Typed) {f : Formula}
    (wellTyped : f.WellTyped) :
    SafeResult features f (f.solve features) ∧
      ∀ op lhs rhs, f.solve features ≠ .error (.typeMismatch op lhs rhs) :=
  ⟨safeResult typed wellTyped, (safeResult typed wellTyped).notMismatch⟩

/-- A guarded division over a table with one integer in it. -/
theorem solveSafeGuarded :
    let features := (FeatureSet.ofList [(⟨"n", ""⟩, .int 0)]).source
    let n : Formula := .feature .int ⟨"n", ""⟩
    let f : Formula := .conditional .int (.boolean .int .lt (.literal (.int 0)) n)
      (.arithmetic .int .div (.literal (.int 100)) n) (.literal (.int 1))
    features.Typed ∧ f.WellTyped ∧ SafeResult features f (f.solve features) ∧
      ∀ op lhs rhs, f.solve features ≠ .error (.typeMismatch op lhs rhs) :=
  have typed := FeatureSet.sourceTyped _
  ⟨typed, by decide, solveSafe typed (by decide)⟩

end Formula

end PassTuner

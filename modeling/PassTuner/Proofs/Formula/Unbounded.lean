import PassTuner.Proofs.Formula.Closure
import PassTuner.Proofs.Formula.Failing

/-! Checked evaluation against evaluation over unbounded integers.

`solveExact` evaluates as `solve` does, in the same order and only the branch taken, but its
integers have no bounds and so it never overflows. Up to the node at which `solve` fails the two go
together: an overflow is told of a node whose exact result has no room in 64 bits, and of the first
one that fails. -/
namespace PassTuner

inductive ExactValue where
  | int (i : Int)
  | float (x : Double)
  | bool (b : Bool)
  | string (s : String)
  deriving DecidableEq, Repr

def ExactValue.type : ExactValue → ValueType
  | .int _ => .int
  | .float _ => .float
  | .bool _ => .bool
  | .string _ => .string

def Value.exact : Value → ExactValue
  | .int i => .int i.toInt
  | .float x => .float x
  | .bool b => .bool b
  | .string s => .string s

/- The integers of 64 signed bits: -2^63 up to 2^63 - 1. -/
def Fits64 (i : Int) : Prop := -0x8000000000000000 ≤ i ∧ i ≤ 0x7fffffffffffffff

instance (i : Int) : Decidable (Fits64 i) := inferInstanceAs (Decidable (_ ∧ _))

theorem Fits64.kept {i : Int} (fits : Fits64 i) : (Int64.ofInt i).toInt = i :=
  Int64.toInt_ofInt_of_le fits.1 (Int.lt_add_one_of_le fits.2)

/- What the unbounded evaluation comes to, beside what the checked one does. -/
inductive Agrees : Except EvalError ExactValue → Except EvalError Value → Prop
  | value (v : Value) : Agrees (.ok v.exact) (.ok v)
  | failure (e : EvalError) : Agrees (.error e) (.error e)
  | overflow (op : ArithOp) (result) : Agrees result (.error (.overflow op))

theorem Agrees.bind {exact : Except EvalError ExactValue} {checked : Except EvalError Value}
    {next : ExactValue → Except EvalError ExactValue} {after : Value → Except EvalError Value}
    (first : Agrees exact checked) (second : ∀ v, Agrees (next v.exact) (after v)) :
    Agrees (exact >>= next) (checked >>= after) := by
  cases first with
  | value v => exact second v
  | failure e => exact .failure e
  | overflow op => exact .overflow op _

theorem Agrees.ofMap (checked : Except EvalError Value) :
    Agrees (checked.map Value.exact) checked := by
  cases checked with
  | ok v => exact .value v
  | error e => exact .failure e

namespace ArithOp

/- Division drops the fraction; by zero there is no result. -/
def onUnbounded : ArithOp → Int → Int → Option Int
  | .add, a, b => some (a + b)
  | .sub, a, b => some (a - b)
  | .mul, a, b => some (a * b)
  | .div, a, b => if b = 0 then none else some (a.tdiv b)

def applyExact (op : ArithOp) : ExactValue → ExactValue → Except EvalError ExactValue
  | .int a, .int b =>
    match op.onUnbounded a b with
    | some i => .ok (.int i)
    | none => .error .divisionByZero
  | .float x, .float y => .ok (.float (op.onDouble x y))
  | a, b => .error (.typeMismatch op.symbol a.type b.type)

theorem unboundedNone {op : ArithOp} {a b : Int} :
    op.onUnbounded a b = none ↔ op = .div ∧ b = 0 := by
  cases op <;> simp [onUnbounded]

theorem unboundedSome {op : ArithOp} {a b r : Int} (exact : op.onUnbounded a b = some r) :
    op.onInt a b = r := by
  cases op <;> simp_all [onUnbounded, onInt]

/- The checked operation gives the exact result if it fits and never another one. -/
theorem applyInts (op : ArithOp) (a b : Int64) :
    op.apply (.int a) (.int b) =
      match op.onUnbounded a.toInt b.toInt with
      | none => .error .divisionByZero
      | some r => if Fits64 r then .ok (.int (.ofInt r)) else .error (.overflow op) := by
  have zero : b = 0 ↔ b.toInt = 0 := Int64.toInt_inj.symm
  cases exact : op.onUnbounded a.toInt b.toInt with
  | none => simp [apply, zero, unboundedNone.mp exact]
  | some r =>
    have nonzero : ¬(op = .div ∧ b = 0) := by
      rw [zero, ← unboundedNone, exact]
      simp
    have range : int64? r = if Fits64 r then some (.ofInt r) else none := rfl
    by_cases fits : Fits64 r <;> simp [apply, nonzero, unboundedSome exact, range, fits]

theorem applyAgrees (op : ArithOp) (a b : Value) :
    Agrees (op.applyExact a.exact b.exact) (op.apply a b) := by
  cases a <;> cases b
  case int.int i j =>
    rw [applyInts]
    simp only [Value.exact, applyExact]
    cases op.onUnbounded i.toInt j.toInt with
    | none => exact .failure _
    | some r =>
      by_cases fits : Fits64 r
      · have value := Agrees.value (.int (.ofInt r))
        simpa [fits, Value.exact, fits.kept] using value
      · simpa [fits] using .overflow op _
  case float.float x y => exact .value (.float (op.onDouble x y))
  all_goals exact .failure _

theorem applyOverflow {op failed : ArithOp} {a b : Value} :
    op.apply a b = .error (.overflow failed) ↔
      failed = op ∧ a.type = .int ∧
        ∃ r, op.applyExact a.exact b.exact = .ok (.int r) ∧ ¬Fits64 r := by
  cases a <;> cases b
  case int.int i j =>
    rw [applyInts]
    simp only [Value.exact, applyExact, Value.type]
    cases op.onUnbounded i.toInt j.toInt with
    | none => simp
    | some r => by_cases fits : Fits64 r <;> simp [fits, eq_comm]
  all_goals simp [apply, applyExact, Value.exact, Value.type]

theorem applyDivision {op : ArithOp} {a b : Value} :
    op.apply a b = .error .divisionByZero ↔ op = .div ∧ a.type = .int ∧ b.exact = .int 0 := by
  cases a <;> cases b
  case int.int i j =>
    rw [applyInts]
    cases exact : op.onUnbounded i.toInt j.toInt with
    | none => simpa [Value.type, Value.exact] using unboundedNone.mp exact
    | some r =>
      have divides : ¬(op = .div ∧ j.toInt = 0) := by
        rw [← unboundedNone, exact]
        simp
      by_cases fits : Fits64 r <;> simpa [fits, Value.type, Value.exact] using divides
  all_goals simp [apply, Value.type, Value.exact]

end ArithOp

namespace BoolOp

def onUnbounded : BoolOp → Int → Int → Option Bool
  | .eq, a, b => some (decide (a = b))
  | .ne, a, b => some (decide (a ≠ b))
  | .lt, a, b => some (decide (a < b))
  | .gt, a, b => some (decide (b < a))
  | .le, a, b => some (decide (a ≤ b))
  | .ge, a, b => some (decide (b ≤ a))
  | .and, _, _ => none
  | .or, _, _ => none

/- Operands that are not integers are left to the operation on values. -/
def applyExact (op : BoolOp) (lhs rhs : ExactValue) : Except EvalError ExactValue :=
  let mismatch : Except EvalError ExactValue := .error (.typeMismatch op.symbol lhs.type rhs.type)
  match lhs, rhs with
  | .int a, .int b =>
    match op.onUnbounded a b with
    | some result => .ok (.bool result)
    | none => mismatch
  | .bool a, .bool b => (op.apply (.bool a) (.bool b)).map Value.exact
  | .float x, .float y => (op.apply (.float x) (.float y)).map Value.exact
  | .string s, .string t => (op.apply (.string s) (.string t)).map Value.exact
  | _, _ => mismatch

theorem unboundedRelates (op : BoolOp) (a b : Int) : op.onUnbounded a b =
    if op.isDefinedFor .int then some (op.relates (some (compare a b))) else none := by
  have compared : compare a b = if a < b then .lt else if a = b then .eq else .gt := rfl
  by_cases below : a < b <;> by_cases same : a = b <;> cases op <;>
    simp [isDefinedFor, forOperand, relational, relates, onUnbounded, bne, compared, below, same]
  all_goals omega

theorem applyAgrees (op : BoolOp) (a b : Value) :
    Agrees (op.applyExact a.exact b.exact) (op.apply a b) := by
  have same : op.applyExact a.exact b.exact = (op.apply a b).map Value.exact := by
    cases a <;> cases b
    case int.int i j =>
      simp only [Value.exact, applyExact, ExactValue.type, unboundedRelates, apply, Value.type]
      by_cases defined : op.isDefinedFor .int <;> simp [defined, Except.map, Value.exact]
    all_goals rfl
  rw [same]
  exact .ofMap _

end BoolOp

namespace Formula

variable {features : FeatureSource} {f node : Formula} {v : Value} {e : EvalError}

def solveExact (features : FeatureSource) : Formula → Except EvalError ExactValue
  | .literal value => .ok value.exact
  | .arithmetic _ op lhs rhs => do
    let a ← lhs.solveExact features
    let b ← rhs.solveExact features
    op.applyExact a b
  | .boolean _ op lhs rhs => do
    let a ← lhs.solveExact features
    let b ← rhs.solveExact features
    op.applyExact a b
  | .conditional _ condition whenTrue whenFalse => do
    match ← condition.solveExact features with
    | .bool true => whenTrue.solveExact features
    | .bool false => whenFalse.solveExact features
    | other => .error (.typeMismatch "if" other.type .bool)
  | .feature type ref =>
    match features.lookup ref type with
    | .ok value => .ok value.exact
    | .error cause => .error (.feature cause)

theorem solveAgrees (features : FeatureSource) (f : Formula) :
    Agrees (f.solveExact features) (f.solve features) := by
  induction f with
  | literal value => exact .value value
  | feature type ref =>
    unfold solve solveExact
    cases features.lookup ref type with
    | ok value => exact .value value
    | error cause => exact .failure _
  | arithmetic type op lhs rhs left right =>
    exact left.bind fun a => right.bind fun b => op.applyAgrees a b
  | boolean operandType op lhs rhs left right =>
    exact left.bind fun a => right.bind fun b => op.applyAgrees a b
  | conditional type condition whenTrue whenFalse test onTrue onFalse =>
    refine test.bind fun value => ?_
    cases value with
    | bool taken =>
      cases taken with
      | true => exact onTrue
      | false => exact onFalse
    | _ => exact .failure _

theorem solvedExact (solved : f.solve features = .ok v) : f.solveExact features = .ok v.exact := by
  have agrees := solveAgrees features f
  rw [solved] at agrees
  generalize f.solveExact features = exact at agrees ⊢
  cases agrees
  rfl

theorem failedExact (failed : f.solve features = .error e) :
    f.solveExact features = .error e ∨ ∃ op, e = .overflow op := by
  have agrees := solveAgrees features f
  rw [failed] at agrees
  generalize f.solveExact features = exact at agrees ⊢
  cases agrees with
  | failure => exact .inl rfl
  | overflow op => exact .inr ⟨op, rfl⟩

theorem exactOperands {type : ValueType} {op : ArithOp} {lhs rhs : Formula} {a b : Value}
    (left : lhs.solve features = .ok a) (right : rhs.solve features = .ok b) :
    (arithmetic type op lhs rhs).solveExact features = op.applyExact a.exact b.exact := by
  simp [solveExact, solvedExact left, solvedExact right, bind, Except.bind]

theorem WellTyped.firstFailing (wellTyped : f.WellTyped)
    (first : f.firstFailing features = some node) : node.WellTyped :=
  wellTyped.every node (visitedNodes features f (List.mem_of_find?_eq_some first))

/- In a well-typed formula nothing but a look-up and arithmetic fails. -/
theorem raisesArithmetic (typed : features.Typed) (wellTyped : node.WellTyped)
    (raises : Raises features node e) (known : ∀ cause, e ≠ .feature cause) :
    ∃ op lhs rhs a b, node = .arithmetic a.type op lhs rhs ∧ lhs.solve features = .ok a ∧
      rhs.solve features = .ok b ∧ op.apply a b = .error e := by
  cases raises with
  | @lookup _ _ cause failed => exact absurd rfl (known cause)
  | @arithmetic type op lhs rhs a b _ left right failed =>
    obtain ⟨same, _, _, lhsTyped, _⟩ := wellTyped
    rw [← same, ← solvedType typed lhsTyped left]
    exact ⟨op, lhs, rhs, a, b, rfl, left, right, failed⟩
  | @boolean type _ lhs rhs a b _ left right failed =>
    obtain ⟨lhsType, rhsType, defined, lhsTyped, rhsTyped⟩ := wellTyped
    obtain ⟨result, applied⟩ := BoolOp.applyDefined
      ((solvedType typed lhsTyped left).trans lhsType)
      ((solvedType typed rhsTyped right).trans rhsType) defined
    cases applied.symm.trans failed
  | condition test other =>
    obtain ⟨boolean, _, _, conditionTyped, _⟩ := wellTyped
    exact absurd ((solvedType typed conditionTyped test).trans boolean) other

/- A well-typed formula fails by a look-up, or at an operator of arithmetic whose operands have
values. -/
theorem failsArithmetic (typed : features.Typed) (wellTyped : f.WellTyped)
    (known : ∀ cause, e ≠ .feature cause) : f.solve features = .error e ↔
      ∃ op lhs rhs a b, f.firstFailing features = some (.arithmetic a.type op lhs rhs) ∧
        lhs.solve features = .ok a ∧ rhs.solve features = .ok b ∧ op.apply a b = .error e := by
  refine failsFirst.trans ⟨?_, ?_⟩
  · rintro ⟨node, first, raises⟩
    obtain ⟨op, lhs, rhs, a, b, rfl, operands⟩ :=
      raisesArithmetic typed (wellTyped.firstFailing first) raises known
    exact ⟨op, lhs, rhs, a, b, first, operands⟩
  · rintro ⟨op, lhs, rhs, a, b, first, left, right, failed⟩
    exact ⟨_, first, .arithmetic left right failed⟩

/- The first node that fails has operands with values; integers if it is an integer node. -/
theorem firstOperands {op : ArithOp} {lhs rhs : Formula} (typed : features.Typed)
    (wellTyped : f.WellTyped)
    (first : f.firstFailing features = some (.arithmetic .int op lhs rhs)) :
    ∃ a b, lhs.solve features = .ok a ∧ rhs.solve features = .ok b ∧ a.type = .int := by
  obtain ⟨lhsType, _, _, lhsTyped, _⟩ := wellTyped.firstFailing first
  obtain ⟨e, _, raises⟩ := firstRaises first
  cases raises with
  | @arithmetic _ _ _ _ a b _ left right failed =>
    exact ⟨a, b, left, right, (solvedType typed lhsTyped left).trans lhsType⟩

theorem overflowsFirst {op : ArithOp} (typed : features.Typed) (wellTyped : f.WellTyped) :
    f.solve features = .error (.overflow op) ↔
      ∃ lhs rhs r, f.firstFailing features = some (.arithmetic .int op lhs rhs) ∧
        (arithmetic .int op lhs rhs).solveExact features = .ok (.int r) ∧ ¬Fits64 r := by
  refine (failsArithmetic typed wellTyped (by simp)).trans ⟨?_, ?_⟩
  · rintro ⟨_, lhs, rhs, a, b, first, left, right, failed⟩
    obtain ⟨rfl, int, r, exact, exceeds⟩ := ArithOp.applyOverflow.mp failed
    rw [int] at first
    exact ⟨lhs, rhs, r, first, (exactOperands left right).trans exact, exceeds⟩
  · rintro ⟨lhs, rhs, r, first, exact, exceeds⟩
    obtain ⟨a, b, left, right, int⟩ := firstOperands typed wellTyped first
    rw [exactOperands left right] at exact
    rw [← int] at first
    exact ⟨op, lhs, rhs, a, b, first, left, right,
      ArithOp.applyOverflow.mpr ⟨rfl, int, r, exact, exceeds⟩⟩

theorem dividesByZeroFirst (typed : features.Typed) (wellTyped : f.WellTyped) :
    f.solve features = .error .divisionByZero ↔
      ∃ lhs rhs, f.firstFailing features = some (.arithmetic .int .div lhs rhs) ∧
        rhs.solveExact features = .ok (.int 0) := by
  refine (failsArithmetic typed wellTyped (by simp)).trans ⟨?_, ?_⟩
  · rintro ⟨_, lhs, rhs, a, b, first, left, right, failed⟩
    obtain ⟨rfl, int, zero⟩ := ArithOp.applyDivision.mp failed
    rw [int] at first
    exact ⟨lhs, rhs, first, zero ▸ solvedExact right⟩
  · rintro ⟨lhs, rhs, first, zero⟩
    obtain ⟨a, b, left, right, int⟩ := firstOperands typed wellTyped first
    rw [solvedExact right, Except.ok.injEq] at zero
    rw [← int] at first
    exact ⟨.div, lhs, rhs, a, b, first, left, right,
      ArithOp.applyDivision.mpr ⟨rfl, int, zero⟩⟩

structure NeverWraps (set : FeatureSet) (f : Formula) : Prop where
  value (v : Value) (solved : f.solve set = .ok v) : f.solveExact set = .ok v.exact
  failure (e : EvalError) (failed : f.solve set = .error e) :
    f.solveExact set = .error e ∨ ∃ op, e = .overflow op
  overflow (op : ArithOp) : f.solve set = .error (.overflow op) ↔
    ∃ lhs rhs r, f.firstFailing set = some (.arithmetic .int op lhs rhs) ∧
      (arithmetic .int op lhs rhs).solveExact set = .ok (.int r) ∧ ¬Fits64 r
  division : f.solve set = .error .divisionByZero ↔
    ∃ lhs rhs, f.firstFailing set = some (.arithmetic .int .div lhs rhs) ∧
      rhs.solveExact set = .ok (.int 0)

theorem neverWraps (set : FeatureSet) (wellTyped : f.WellTyped) : f.NeverWraps set where
  value _ solved := solvedExact solved
  failure _ failed := failedExact failed
  overflow _ := overflowsFirst set.sourceTyped wellTyped
  division := dividesByZeroFirst set.sourceTyped wellTyped

/- 1 + least / -1 in the branch taken, and a product far out of bounds in the other. -/
theorem neverWrapsLeast :
    let set := FeatureSet.ofList [(⟨"n", ""⟩, .int Int64.minValue)]
    let n : Formula := .feature .int ⟨"n", ""⟩
    let quotient : Formula := .arithmetic .int .div n (.literal (.int (-1)))
    let f : Formula := .conditional .int (.boolean .int .lt (.literal (.int 0)) n)
      (.arithmetic .int .mul n n) (.arithmetic .int .add (.literal (.int 1)) quotient)
    f.WellTyped ∧ f.NeverWraps set ∧ f.firstFailing set = some quotient ∧
      quotient.solveExact set = .ok (.int 0x8000000000000000) :=
  ⟨by decide, neverWraps _ (by decide), by decide +kernel, by rfl⟩

end Formula

end PassTuner

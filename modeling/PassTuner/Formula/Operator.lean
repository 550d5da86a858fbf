import PassTuner.Double.Arithmetic
import PassTuner.Feature.Basic

/-! The operators of formulas and their meaning on values.

Integer arithmetic is checked: a result outside 64 bits is an error and never wraps. Float
arithmetic is that of doubles. Comparisons with something that is not a number are false, except
for the unequal sign. -/
namespace PassTuner

inductive ArithOp where
  | add
  | sub
  | mul
  | div
  deriving DecidableEq, Repr, Inhabited

inductive BoolOp where
  | eq
  | ne
  | and
  | or
  | lt
  | gt
  | le
  | ge
  deriving DecidableEq, Repr, Inhabited

/-- Why a formula has no value. -/
inductive EvalError where
  | feature (cause : FeatureError)
  | divisionByZero
  | overflow (op : ArithOp)
  | typeMismatch (op : String) (lhs rhs : ValueType)
  deriving DecidableEq, Repr

/-- The integers that 64 signed bits hold. -/
def int64? (i : Int) : Option Int64 :=
  if Int64.minValue.toInt ≤ i ∧ i ≤ Int64.maxValue.toInt then some (.ofInt i) else none

namespace ArithOp

def all : List ArithOp := [.add, .sub, .mul, .div]

def symbol : ArithOp → String
  | .add => "+"
  | .sub => "-"
  | .mul => "*"
  | .div => "/"

def ofSymbol? (symbol : String) : Option ArithOp := all.find? fun op => op.symbol == symbol

def rank : ArithOp → Nat
  | .add => 0
  | .sub => 1
  | .mul => 2
  | .div => 3

/-- The operation on unbounded integers; division drops the fraction. -/
def onInt : ArithOp → Int → Int → Int
  | .add, a, b => a + b
  | .sub, a, b => a - b
  | .mul, a, b => a * b
  | .div, a, b => a.tdiv b

def onDouble : ArithOp → Double → Double → Double
  | .add, a, b => a + b
  | .sub, a, b => a - b
  | .mul, a, b => a * b
  | .div, a, b => a / b

/-- The operation on values: two integers, or two floats. -/
def apply (op : ArithOp) : Value → Value → Except EvalError Value
  | .int a, .int b =>
    if op = .div ∧ b = 0 then .error .divisionByZero
    else match int64? (op.onInt a.toInt b.toInt) with
      | some i => .ok (.int i)
      | none => .error (.overflow op)
  | .float a, .float b => .ok (.float (op.onDouble a b))
  | a, b => .error (.typeMismatch op.symbol a.type b.type)

end ArithOp

namespace BoolOp

def all : List BoolOp := [.eq, .ne, .and, .or, .lt, .gt, .le, .ge]

def logical : List BoolOp := [.eq, .ne, .and, .or]

def relational : List BoolOp := [.lt, .gt, .le, .ge, .eq, .ne]

def forOperand : ValueType → List BoolOp
  | .bool => logical
  | .int | .float | .string => relational

def isDefinedFor (op : BoolOp) (ty : ValueType) : Bool := (forOperand ty).contains op

def symbol : BoolOp → String
  | .eq => "=="
  | .ne => "!="
  | .and => "&&"
  | .or => "||"
  | .lt => "<"
  | .gt => ">"
  | .le => "<="
  | .ge => ">="

def ofSymbol? (symbol : String) : Option BoolOp := all.find? fun op => op.symbol == symbol

def rank : BoolOp → Nat
  | .eq => 0
  | .ne => 1
  | .and => 2
  | .or => 3
  | .lt => 4
  | .gt => 5
  | .le => 6
  | .ge => 7

/-- Whether operands that compare in this way are related; nothing is related to what it cannot
be compared with, but it is unequal to it. -/
def relates : BoolOp → Option Ordering → Bool
  | .ne, none => true
  | _, none => false
  | .lt, some o => o == .lt
  | .gt, some o => o == .gt
  | .le, some o => o != .gt
  | .ge, some o => o != .lt
  | .eq, some o => o == .eq
  | .ne, some o => o != .eq
  | .and, some _ => false
  | .or, some _ => false

def onBool : BoolOp → Bool → Bool → Option Bool
  | .and, a, b => some (a && b)
  | .or, a, b => some (a || b)
  | .eq, a, b => some (a == b)
  | .ne, a, b => some (a != b)
  | _, _, _ => none

/-- The operation on two values of one type that has the operator. -/
def apply (op : BoolOp) (lhs rhs : Value) : Except EvalError Value :=
  let mismatch : Except EvalError Value := .error (.typeMismatch op.symbol lhs.type rhs.type)
  if lhs.type = rhs.type ∧ op.isDefinedFor lhs.type then
    match lhs, rhs with
    | .bool a, .bool b =>
      match op.onBool a b with
      | some result => .ok (.bool result)
      | none => mismatch
    | .int a, .int b => .ok (.bool (op.relates (some (compare a.toInt b.toInt))))
    | .float a, .float b => .ok (.bool (op.relates (a.compare? b)))
    | .string a, .string b => .ok (.bool (op.relates (some (compare a b))))
    | _, _ => mismatch
  else mismatch

end BoolOp

def EvalError.message : EvalError → String
  | .feature (.unknown ref) => "unknown feature " ++ ref.display
  | .feature (.wrongType ref expected actual) =>
    "feature " ++ ref.display ++ " has type " ++ actual.name ++ ", expected " ++ expected.name
  | .divisionByZero => "integer division by zero"
  | .overflow op => "integer overflow in " ++ op.symbol
  | .typeMismatch op lhs rhs =>
    "operator " ++ op ++ " cannot combine " ++ lhs.name ++ " and " ++ rhs.name

end PassTuner

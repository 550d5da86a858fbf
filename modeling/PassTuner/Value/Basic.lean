import PassTuner.Double.Notation
import PassTuner.Text.Quoted

/-! Values and their types.

Values are ordered by type and then by payload. Floats take the total order of their bits, so
two values compare equal exactly when they are the same. -/
namespace PassTuner

/-- The types of formulas, decision points and features, in their order. -/
inductive ValueType where
  | int
  | float
  | bool
  | string
  deriving DecidableEq, Repr, Inhabited

namespace ValueType

def all : List ValueType := [.int, .float, .bool, .string]

/-- The small integer a type is stored as, which is also its place in the order. -/
def tag : ValueType → Nat
  | .int => 0
  | .float => 1
  | .bool => 2
  | .string => 3

def ofTag? (tag : Nat) : Option ValueType := all.find? fun ty => ty.tag == tag

def name : ValueType → String
  | .int => "int"
  | .float => "float"
  | .bool => "bool"
  | .string => "string"

/-- The type of a name as catalogs spell it, in any case of its letters. -/
def ofName? (name : String) : Option ValueType :=
  let lower := String.ofList (name.toList.map Char.toLower)
  if lower = "int" ∨ lower = "integer" then some .int
  else if lower = "float" ∨ lower = "double" then some .float
  else if lower = "bool" ∨ lower = "boolean" then some .bool
  else if lower = "string" ∨ lower = "str" then some .string
  else none

def isNumeric : ValueType → Bool
  | .int | .float => true
  | .bool | .string => false

def order (a b : ValueType) : Ordering := compare a.tag b.tag

end ValueType

/-- What a literal, a feature or a decision holds. -/
inductive Value where
  | int (i : Int64)
  | float (x : Double)
  | bool (b : Bool)
  | string (s : String)
  deriving DecidableEq, Repr, Inhabited

namespace Value

def type : Value → ValueType
  | .int _ => .int
  | .float _ => .float
  | .bool _ => .bool
  | .string _ => .string

/-- Type first, then payload. -/
def order : Value → Value → Ordering
  | .int a, .int b => compare a.toInt b.toInt
  | .float a, .float b => a.totalCompare b
  | .bool a, .bool b => compare a b
  | .string a, .string b => compare a b
  | a, b => a.type.order b.type

def display : Value → String
  | .int i => toString i.toInt
  | .float x => String.ofList (Double.Layout.literal.text x)
  | .bool b => if b then "true" else "false"
  | .string s => String.ofList (Text.quote s.toList)

def isNonFinite : Value → Bool
  | .float x => !x.isFinite
  | _ => false

end Value

end PassTuner

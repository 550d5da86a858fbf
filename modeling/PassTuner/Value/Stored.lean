import PassTuner.Json.Decoding
import PassTuner.Json.Printer
import PassTuner.Value.Basic

/-! Values and types in stored data.

A value is stored bare: booleans and strings as such, integers without and floats with a point or
an exponent. A type is stored as its tag. -/
namespace PassTuner

def Value.toJson : Value → Json
  | .int i => .int i.toInt
  | .float x => .float x
  | .bool b => .bool b
  | .string s => .string s

/-- An integer that 64 signed bits do not hold is read as a float. -/
def Value.ofJson : Json.Decoder Value
  | .bool b => .ok (.bool b)
  | .int i =>
    if Int64.minValue.toInt ≤ i ∧ i ≤ Int64.maxValue.toInt then .ok (.int (.ofInt i))
    else .ok (.float (Double.ofInt i))
  | .float x => .ok (.float x)
  | .string s => .ok (.string s)
  | _ => Json.refuse

def ValueType.toJson (ty : ValueType) : Json := .int ty.tag

/-- A tag; one of eight bits that names no type has a message of its own. -/
def ValueType.ofJson (j : Json) : Except ReadError ValueType := do
  let tag ← Json.asNat 255 j
  match ValueType.ofTag? tag with
  | some ty => .ok ty
  | none => .error (.unknownTypeTag tag)

end PassTuner

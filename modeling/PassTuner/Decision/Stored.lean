import PassTuner.Decision.Basic
import PassTuner.Value.Stored

/-! Decision points and decisions in stored data. Decisions are one object, which is also what a
measuring command is given. -/
namespace PassTuner

def DecisionPoint.toJson (point : DecisionPoint) : Json :=
  .object [("name", .string point.name), ("type", point.type.toJson)]

namespace Decisions

def toJson (d : Decisions) : Json :=
  .object (d.entries.map fun (name, value) => (name, value.toJson))

/-- Decisions from fields; of two with one name the last counts. -/
def ofFields : List (String × Json) → Decisions → Except ReadError Decisions
  | [], d => .ok d
  | (name, tree) :: rest, d => do
    let value ← Value.ofJson tree
    ofFields rest (d.insert name value)

def ofJson : Json.Decoder Decisions
  | .object fields => ofFields fields empty
  | _ => Json.refuse

def parse (text : String) : Except ReadError Decisions := Json.decodeText ofJson text

def compact (d : Decisions) : String := String.ofList d.toJson.compact

end Decisions

end PassTuner

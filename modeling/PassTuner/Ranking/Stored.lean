import PassTuner.Json.Decoding
import PassTuner.Json.Printer
import PassTuner.Ranking.Basic

/-! Evaluation statuses in stored data: the status first, then what belongs to it. -/
namespace PassTuner.EvaluationStatus

def toJson : EvaluationStatus → Json
  | .measured cost => .object [("status", .string "measured"), ("cost", .float cost)]
  | .failed reason => .object [("status", .string "failed"), ("reason", .string reason)]

def costSlot : Json.Slot Json EvaluationStatus :=
  .of "cost" true Json.asDouble fun cost _ => .measured cost

def reasonSlot : Json.Slot Json EvaluationStatus :=
  .of "reason" true Json.asString fun reason _ => .failed reason

def slots : Json.Decoder (List (Json.Slot Json EvaluationStatus))
  | .string "measured" => .ok [costSlot]
  | .string "failed" => .ok [reasonSlot]
  | _ => Json.refuse

/-- All fields are read whole; the status may stand anywhere, but once. -/
def ofJson (j : Json) : Except ReadError EvaluationStatus := do
  if j.readable then
    match j with
    | .object fields =>
      match fields.filter fun field => field.1 == "status" with
      | [(_, tag)] => do
        let slots ← slots tag
        Json.record slots (.failed "") (.object fields)
      | _ => Json.refuse
    | .array (tag :: items) => do
      let slots ← slots tag
      Json.record slots (.failed "") (.array items)
    | _ => Json.refuse
  else Json.refuse

def parse (text : String) : Except ReadError EvaluationStatus := Json.decodeText ofJson text

def compact (s : EvaluationStatus) : String := String.ofList s.toJson.compact

end PassTuner.EvaluationStatus

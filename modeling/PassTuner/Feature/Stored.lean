import PassTuner.Feature.Basic
import PassTuner.Value.Stored

/-! Feature tables in stored data: an array of entries, written in order. -/
namespace PassTuner.FeatureSet

def entryToJson : FeatureRef × Value → Json
  | (feature, value) =>
    .object [("name", .string feature.name), ("sub", .string feature.sub), ("value", value.toJson)]

def toJson (set : FeatureSet) : Json := .array (set.entries.map entryToJson)

/-- The fields of an entry; the sub-feature may be left out. -/
def entrySlots : List (Json.Slot Json (FeatureRef × Value)) :=
  [.of "name" true Json.asString fun name (feature, value) => (⟨name, feature.sub⟩, value),
   .of "sub" false Json.asString fun sub (feature, value) => (⟨feature.name, sub⟩, value),
   .of "value" true Value.ofJson fun value (feature, _) => (feature, value)]

def entryOfJson : Json.Decoder (FeatureRef × Value) := Json.record entrySlots (⟨"", ""⟩, .bool false)

def ofJson (j : Json) : Except ReadError FeatureSet :=
  (Json.asArray entryOfJson j).map ofList

def parse (text : String) : Except ReadError FeatureSet := Json.decodeText ofJson text

def pretty (set : FeatureSet) : String := String.ofList set.toJson.pretty

end PassTuner.FeatureSet

import PassTuner.Candidate.Record
import PassTuner.Formula.Stored

/-! Candidate records in stored data. -/
namespace PassTuner

def EntryRecord.toJson (r : EntryRecord) : Json :=
  .object [("name", .string r.name), ("type", r.type.toJson), ("formula", r.formula.toJson)]

def EntryRecord.ofJson : Json.Decoder EntryRecord :=
  Json.record
    [.of "name" true Json.asString fun name r => { r with name := name },
     .of "type" true ValueType.ofJson fun type r => { r with type := type },
     .of "formula" true FormulaRecord.ofJson fun formula r => { r with formula := formula }]
    ⟨"", .int, .literal .bool (.bool false)⟩

namespace CandidateRecord

def toJson (r : CandidateRecord) : Json :=
  .object [("score", .float r.score), ("count", .int r.count),
    ("formulas", .array (r.formulas.map EntryRecord.toJson))]

def countLimit : Nat := 0xffffffff

def ofJson : Json.Decoder CandidateRecord :=
  Json.record
    [.of "score" true Json.asDouble fun score r => { r with score := score },
     .of "count" true (Json.asNat countLimit) fun count r => { r with count := count },
     .of "formulas" true (Json.asArray EntryRecord.ofJson) fun formulas r =>
       { r with formulas := formulas }]
    ⟨.zero, 0, []⟩

def parse (text : String) : Except ReadError CandidateRecord := Json.decodeText ofJson text

def compact (r : CandidateRecord) : String := String.ofList r.toJson.compact

end CandidateRecord

end PassTuner

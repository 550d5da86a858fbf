import PassTuner.Candidate.Stored
import PassTuner.Knowledge.Basic

/-! Knowledge bases in stored data: an array of candidate records in structural order. -/
namespace PassTuner

/-- Why stored candidates cannot be used: the text is refused, or a record in it is. -/
inductive LoadError where
  | malformed (cause : ReadError)
  | invalid (cause : RecordError)
  deriving DecidableEq, Repr

def Candidate.load (text : String) : Except LoadError Candidate :=
  match CandidateRecord.parse text with
  | .error cause => .error (.malformed cause)
  | .ok r => (Candidate.ofRecord r).mapError LoadError.invalid

namespace KnowledgeBase

def toRecords (k : KnowledgeBase) : List CandidateRecord := k.candidates.map Candidate.toRecord

/-- Add the candidates of records in turn, up to the first that is refused. -/
def addRecords (k : KnowledgeBase) : List CandidateRecord → Except RecordError KnowledgeBase
  | [] => .ok k
  | r :: rest => do
    let c ← Candidate.ofRecord r
    addRecords (k.update c) rest

def ofRecords (records : List CandidateRecord) : Except RecordError KnowledgeBase :=
  empty.addRecords records

def toJson (k : KnowledgeBase) : Json := .array (k.toRecords.map CandidateRecord.toJson)

def save (k : KnowledgeBase) : String := String.ofList k.toJson.pretty

def load (text : String) : Except LoadError KnowledgeBase :=
  match Json.decodeText (Json.asArray CandidateRecord.ofJson) text with
  | .error cause => .error (.malformed cause)
  | .ok records => (ofRecords records).mapError LoadError.invalid

end KnowledgeBase

end PassTuner

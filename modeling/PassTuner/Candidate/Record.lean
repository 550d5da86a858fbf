import PassTuner.Candidate.Basic
import PassTuner.Formula.Record

/-! Candidate records: what is stored of a candidate, and its checked way back. -/
namespace PassTuner

/-- What is stored of one entry. -/
structure EntryRecord where
  name : String
  type : ValueType
  formula : FormulaRecord
  deriving DecidableEq, Repr, Inhabited

/-- What is stored of a candidate. -/
structure CandidateRecord where
  score : Double
  count : Nat
  formulas : List EntryRecord
  deriving DecidableEq, Repr, Inhabited

/-- Why a record is no candidate. -/
inductive RecordError where
  | duplicateDecision (name : String)
  | formula (name : String) (cause : FormulaError)
  deriving DecidableEq, Repr

def RecordError.message : RecordError → String
  | .duplicateDecision name => "decision " ++ name ++ " appears more than once"
  | .formula name cause => "decision " ++ name ++ ": " ++ cause.message

namespace Candidate

def entryRecord (entry : Entry) : EntryRecord := ⟨entry.1.name, entry.1.type, entry.2.toRecord⟩

def toRecord (c : Candidate) : CandidateRecord := ⟨c.score, c.count, c.entries.map entryRecord⟩

/-- The formula of an entry, which must have the entry's type. -/
def entryFormula (r : EntryRecord) : Except RecordError Formula :=
  match Formula.ofRecord r.formula with
  | .error cause => .error (.formula r.name cause)
  | .ok f =>
    if f.type = r.type then .ok f else .error (.formula r.name (.typeMismatch r.type f.type))

/-- Collect entries in turn; a name may come once. -/
def collectEntries : List EntryRecord → List Entry → Except RecordError (List Entry)
  | [], entries => .ok entries
  | r :: rest, entries => do
    let f ← entryFormula r
    if entries.any fun entry => entry.1.name == r.name then .error (.duplicateDecision r.name)
    else collectEntries rest (Sorted.upsert placeOrder (⟨r.name, r.type⟩, f) entries)

def ofRecord (r : CandidateRecord) : Except RecordError Candidate :=
  (collectEntries r.formulas []).map fun entries => ⟨entries, r.score, r.count⟩

end Candidate

end PassTuner

import PassTuner.Candidate.Stored
import PassTuner.Proofs.Formula.Stored

/-! Candidate records in stored data are read back as they were written. -/
namespace PassTuner
open Json (Restores)

namespace EntryRecord

theorem entryRead {name : String} {type : ValueType} {formula : Json} {r : EntryRecord} :
    ofJson (.object [("name", .string name), ("type", type.toJson), ("formula", formula)]) =
      .ok r ↔ ∃ f, FormulaRecord.ofJson formula = .ok f ∧ ⟨name, type, f⟩ = r := by
  rw [ofJson, Json.recordInOrder (by decide) rfl]
  simp only [List.map_cons, List.map_nil, Json.fillItems, Json.Slot.of, ValueType.typeRead,
    Checked.bindOk, Checked.mapOk]
  constructor
  · rintro ⟨_, ⟨_, named, rfl⟩, _, ⟨_, typed, rfl⟩, _, ⟨f, read, rfl⟩, ok⟩
    cases named
    cases typed
    exact ⟨f, read, Except.ok.inj ok⟩
  · rintro ⟨f, read, rfl⟩
    exact ⟨_, ⟨_, rfl, rfl⟩, _, ⟨_, rfl, rfl⟩, _, ⟨f, read, rfl⟩, rfl⟩

theorem entryRestored (room : Nat) :
    Restores toJson ofJson (room + 1) fun r => r.formula.Fits room := by
  intro r s
  simp only [toJson, Json.keptObject, Json.keptFields, Json.keptField, Json.keptString,
    ValueType.typeKept, entryRead, FormulaRecord.recordRestored room r.formula _, and_assoc,
    exists_and_left, exists_eq_left']

end EntryRecord

namespace CandidateRecord

theorem candidateRead {score count formulas : Json} {r : CandidateRecord} :
    ofJson (.object [("score", score), ("count", count), ("formulas", formulas)]) = .ok r ↔
      Json.asDouble score = .ok r.score ∧ Json.asNat countLimit count = .ok r.count ∧
        Json.asArray EntryRecord.ofJson formulas = .ok r.formulas := by
  rw [ofJson, Json.recordInOrder (by decide) rfl]
  simp only [List.map_cons, List.map_nil, Json.fillItems, Json.Slot.of, Checked.bindOk,
    Checked.mapOk]
  constructor
  · rintro ⟨_, ⟨_, score, rfl⟩, _, ⟨_, count, rfl⟩, _, ⟨_, formulas, rfl⟩, ok⟩
    cases ok
    exact ⟨score, count, formulas⟩
  · rintro ⟨score, count, formulas⟩
    exact ⟨_, ⟨_, score, rfl⟩, _, ⟨_, count, rfl⟩, _, ⟨_, formulas, rfl⟩, rfl⟩

/-- Whether a record survives being written: its score is not lost, its count has a place of 32
bits, and its formulas fit. -/
structure Fits (room : Nat) (r : CandidateRecord) : Prop where
  score : r.score.isFinite
  count : r.count ≤ countLimit
  formulas : ∀ entry ∈ r.formulas, entry.formula.Fits room

theorem candidateRestored (room : Nat) : Restores toJson ofJson (room + 3) (Fits room) := by
  intro r s
  have score := Json.doubleRestored (room + 2) r.score s.score
  have count := Json.natRestored countLimit (by decide) (room + 2) r.count s.count
  have formulas := Json.arrayRestored (EntryRecord.entryRestored room) r.formulas s.formulas
  simp only [toJson, Json.keptObject, Json.keptFields, Json.keptField, candidateRead]
  rw [score, count, formulas]
  constructor
  · rintro ⟨⟨finite, sameScore⟩, ⟨within, sameCount⟩, fits, sameFormulas⟩
    cases r
    cases s
    cases sameScore
    cases sameCount
    cases sameFormulas
    exact ⟨⟨finite, within, fits⟩, rfl⟩
  · rintro ⟨⟨finite, within, fits⟩, rfl⟩
    exact ⟨⟨finite, rfl⟩, ⟨within, rfl⟩, fits, rfl⟩

end CandidateRecord

end PassTuner

import PassTuner.Knowledge.Stored
import PassTuner.Proofs.Candidate.Record
import PassTuner.Proofs.Candidate.Stored

/-! A knowledge base that is saved comes back as it was, or not at all.

Three things make a saved base unreadable: a score that is not finite, a float literal that is not
finite, and a formula so deep that its nodes go beyond the nesting limit. A base without them is
loaded with the same candidates in the same order. -/
namespace PassTuner.KnowledgeBase
open Std

/-- What every base keeps that is built by its operations: candidates in their order, none of them
twice, and counts of 32 bits. -/
structure WellFormed (k : KnowledgeBase) : Prop where
  ascending : Sorted.Ascending Candidate.order k.candidates
  candidates : ∀ c ∈ k.candidates, c.WellFormed
  counts : ∀ c ∈ k.candidates, c.count ≤ CandidateRecord.countLimit

/-- What a text can hold of a base. -/
structure Storable (k : KnowledgeBase) : Prop where
  scores : ∀ c ∈ k.candidates, c.score.isFinite
  literals : ∀ c ∈ k.candidates, ∀ entry ∈ c.entries, entry.2.FiniteLiterals
  depths : ∀ c ∈ k.candidates, ∀ entry ∈ c.entries, entry.2.depth ≤ 122

theorem addRebuilt {done rest : List Candidate}
    (ascending : Sorted.Ascending Candidate.order (done ++ rest))
    (wellFormed : ∀ c ∈ rest, c.WellFormed) :
    addRecords ⟨done⟩ (rest.map Candidate.toRecord) = .ok ⟨done ++ rest⟩ := by
  induction rest generalizing done with
  | nil => rw [List.append_nil]; rfl
  | cons c rest ih =>
    obtain ⟨here, later⟩ := List.forall_mem_cons.mp wellFormed
    have last : update ⟨done⟩ c = ⟨done ++ [c]⟩ := by
      refine congrArg KnowledgeBase.mk (Sorted.upsertLast fun other mem => ?_)
      exact OrientedCmp.gt_of_lt ((List.pairwise_append.mp ascending).2.2 other mem c List.mem_cons_self)
    have behind : Sorted.Ascending Candidate.order ((done ++ [c]) ++ rest) := by
      simpa using ascending
    have others := ih behind later
    rw [List.append_assoc] at others
    rw [List.map_cons, addRecords]
    refine Checked.bindOk.mpr ⟨c, Candidate.ofRecordRebuilt here, ?_⟩
    rw [last]
    exact others

theorem ofRecordsRebuilt {k : KnowledgeBase} (wellFormed : k.WellFormed) :
    ofRecords k.toRecords = .ok k :=
  @addRebuilt [] k.candidates wellFormed.ascending wellFormed.candidates

theorem addSource {k loaded : KnowledgeBase} {records : List CandidateRecord}
    (ok : k.addRecords records = .ok loaded) (ascending : Sorted.Ascending Candidate.order k.candidates)
    (wellFormed : ∀ c ∈ k.candidates, c.WellFormed) :
    Sorted.Ascending Candidate.order loaded.candidates ∧ ∀ c ∈ loaded.candidates, c.WellFormed := by
  induction records generalizing k with
  | nil =>
    cases ok
    exact ⟨ascending, wellFormed⟩
  | cons r rest ih =>
    obtain ⟨c, read, ok⟩ := Checked.bindOk.mp ok
    exact ih ok (Sorted.upsertAscending ascending c)
      (Sorted.upsertAll (Candidate.ofRecordWellFormed read) wellFormed)

theorem loadRecords {text : String} {k : KnowledgeBase} :
    load text = .ok k ↔ ∃ records,
      Json.decodeText (Json.asArray CandidateRecord.ofJson) text = .ok records ∧
        ofRecords records = .ok k := by
  rw [load]
  split
  · rename_i refused
    rw [refused]
    exact ⟨nofun, fun ⟨_, read, _⟩ => nomatch read⟩
  · rename_i records read
    rw [Checked.mapErrorOk, read]
    refine ⟨fun ok => ⟨records, rfl, ok⟩, ?_⟩
    rintro ⟨_, same, ok⟩
    cases same
    exact ok

/-- Whatever the text, a base that is loaded has well-formed candidates in their order. -/
theorem loadSource {text : String} {k : KnowledgeBase} (ok : load text = .ok k) :
    Sorted.Ascending Candidate.order k.candidates ∧ ∀ c ∈ k.candidates, c.WellFormed := by
  obtain ⟨records, _, ok⟩ := loadRecords.mp ok
  exact addSource ok List.Pairwise.nil nofun

/-- A formula of a saved base stands in an array of entries in an array of candidates, five levels
deep. -/
theorem recordsRestored (k : KnowledgeBase) (records : List CandidateRecord) :
    Json.decodeText (Json.asArray CandidateRecord.ofJson) k.save = .ok records ↔
      (∀ r ∈ k.toRecords, r.Fits 123) ∧ k.toRecords = records :=
  Json.textRestored (Json.arrayRestored (CandidateRecord.candidateRestored 123)) .indented
    k.toRecords records

theorem storable {k : KnowledgeBase} (wellFormed : k.WellFormed) :
    (∀ r ∈ k.toRecords, r.Fits 123) ↔ k.Storable := by
  have each (c : Candidate) (small : c.count ≤ CandidateRecord.countLimit) :
      c.toRecord.Fits 123 ↔ c.score.isFinite ∧
        ∀ entry ∈ c.entries, entry.2.FiniteLiterals ∧ entry.2.depth ≤ 122 := by
    constructor
    · rintro ⟨score, _, formulas⟩
      refine ⟨score, fun entry mem => ?_⟩
      have fits := formulas _ (List.mem_map_of_mem mem)
      have ⟨literals, depth⟩ := (Formula.recordFits entry.2 123).mp fits
      exact ⟨literals, Nat.le_of_lt_succ depth⟩
    · rintro ⟨score, formulas⟩
      refine ⟨score, small, List.forall_mem_map.mpr fun entry mem => ?_⟩
      obtain ⟨literals, depth⟩ := formulas entry mem
      exact (Formula.recordFits entry.2 123).mpr ⟨literals, Nat.lt_succ_of_le depth⟩
  rw [toRecords, List.forall_mem_map]
  constructor
  · intro fits
    have parts := fun c mem => (each c (wellFormed.counts c mem)).mp (fits c mem)
    exact ⟨fun c mem => (parts c mem).1, fun c mem entry inside => ((parts c mem).2 entry inside).1,
      fun c mem entry inside => ((parts c mem).2 entry inside).2⟩
  · rintro ⟨scores, literals, depths⟩ c mem
    refine (each c (wellFormed.counts c mem)).mpr ⟨scores c mem, fun entry inside => ?_⟩
    exact ⟨literals c mem entry inside, depths c mem entry inside⟩

theorem loadExact {k : KnowledgeBase} (wellFormed : k.WellFormed) (loaded : KnowledgeBase) :
    load k.save = .ok loaded ↔ k.Storable ∧ k = loaded := by
  rw [loadRecords, ← storable wellFormed]
  constructor
  · rintro ⟨records, read, ok⟩
    obtain ⟨fits, rfl⟩ := (recordsRestored k records).mp read
    exact ⟨fits, Except.ok.inj ((ofRecordsRebuilt wellFormed).symm.trans ok)⟩
  · rintro ⟨fits, rfl⟩
    exact ⟨k.toRecords, (recordsRestored k _).mpr ⟨fits, rfl⟩, ofRecordsRebuilt wellFormed⟩

theorem loadSaved {k : KnowledgeBase} (wellFormed : k.WellFormed) :
    ((∃ loaded, load k.save = .ok loaded) ↔ k.Storable) ∧
      ∀ loaded, load k.save = .ok loaded → loaded = k := by
  have exact := loadExact wellFormed
  refine ⟨⟨fun ⟨loaded, ok⟩ => ((exact loaded).mp ok).1, fun fits => ?_⟩, fun loaded ok => ?_⟩
  · exact ⟨k, (exact k).mpr ⟨fits, rfl⟩⟩
  · exact ((exact loaded).mp ok).2.symm

/-- A base of two candidates, with values of all four types. -/
def smallBase : KnowledgeBase :=
  ⟨[⟨[(⟨"gvn", .bool⟩, .boolean .string .eq (.feature .string ⟨"tgt", "cpu"⟩)
        (.literal (.string "a\"b\\π\n")))], .ofDecimal true 15 (-1), 3⟩,
    ⟨[(⟨"gvn", .bool⟩, .literal (.bool true)),
      (⟨"~gvn.0", .float⟩, .conditional .float
        (.boolean .int .lt (.literal (.int Int64.minValue)) (.feature .int ⟨"size", ""⟩))
        (.arithmetic .float .mul (.literal (.float (.ofDecimal false 1 (-1)))) (.literal (.float ⟨1⟩)))
        (.literal (.float (.ofDecimal false 3 20))))], .zero, 4294967295⟩]⟩

theorem loadSavedSmall : smallBase.WellFormed ∧ load smallBase.save = .ok smallBase := by
  have wellFormed : smallBase.WellFormed := ⟨by decide +kernel, by decide +kernel, by decide +kernel⟩
  have storable : smallBase.Storable := ⟨by decide +kernel, by decide +kernel, by decide +kernel⟩
  obtain ⟨loaded, ok⟩ := (loadSaved wellFormed).1.mpr storable
  refine ⟨wellFormed, ?_⟩
  rw [ok, (loadSaved wellFormed).2 loaded ok]

end PassTuner.KnowledgeBase

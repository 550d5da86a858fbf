import PassTuner.Oracle.Command
import PassTuner.Proofs.Candidate.Record
import PassTuner.Proofs.Decision.Enabled
import PassTuner.Proofs.Formula.Soundness
import PassTuner.Proofs.Formula.Stored

/-! What a measuring command is told of the decisions.

Decisions are written as one object under one name. Each of them is read back with its type and
its bits, apart from a float that is not finite: it is written as `null`, and then none of them can
be read. No step from a formula to the text looks for such a float. -/
namespace PassTuner

theorem Value.finiteFloat {value : Value} :
    value.isNonFinite = false ↔ ∀ x, value = .float x → x.isFinite := by
  cases value <;> simp [isNonFinite]

namespace Decisions

variable {d e : Decisions}

/-- Every decision is one that a text can hold. -/
def Finite (d : Decisions) : Prop := ∀ decision ∈ d.entries, decision.2.isNonFinite = false

instance (d : Decisions) : Decidable d.Finite := List.decidableBAll _ _

def ofPayload : Json.Decoder Decisions :=
  Json.record [.of "decisions" true ofJson fun d _ => d] .empty

/-- The fields are read one by one, behind those that were read already. -/
theorem fieldsRead (room : Nat) {done rest : List (String × Value)}
    (ascending : Sorted.Ascending entryOrder (done ++ rest)) :
    ofFields (Json.keptFields room (rest.map fun (name, value) => (name, value.toJson))) ⟨done⟩ =
        .ok e ↔
      (∀ decision ∈ rest, decision.2.isNonFinite = false) ∧ e = ⟨done ++ rest⟩ := by
  induction rest generalizing done with
  | nil =>
    rw [List.append_nil]
    exact ⟨fun ok => ⟨List.forall_mem_nil _, (Except.ok.inj ok).symm⟩, fun ⟨_, same⟩ => same ▸ rfl⟩
  | cons decision rest ih =>
    obtain ⟨name, value⟩ := decision
    have last : insert ⟨done⟩ name value = ⟨done ++ [(name, value)]⟩ :=
      insertLast (List.forall_mem_map.mpr fun other mem =>
        (List.pairwise_append.mp ascending).2.2 other mem _ List.mem_cons_self) value
    -- what is read of this one goes behind the others, so that these are one more
    rw [List.append_cons] at ascending ⊢
    rw [List.map_cons, Json.keptFields, Json.keptField, ofFields, List.forall_mem_cons, and_assoc,
      ← ih ascending, ← last]
    refine Checked.bindOk.trans ?_
    constructor
    · rintro ⟨read, ok, others⟩
      obtain ⟨finite, rfl⟩ := (Value.valueRestored room value read).mp ok
      exact ⟨finite, others⟩
    · rintro ⟨finite, others⟩
      exact ⟨value, (Value.valueRestored room value value).mpr ⟨finite, rfl⟩, others⟩

theorem decisionsRead (room : Nat) (ascending : Sorted.Ascending entryOrder d.entries) :
    ofJson (Json.kept (room + 1) d.toJson) = .ok e ↔ d.Finite ∧ e = d :=
  fieldsRead room ascending

theorem textRead (ascending : Sorted.Ascending entryOrder d.entries) :
    parse d.compact = .ok e ↔ d.Finite ∧ e = d := by
  rw [parse, compact, Json.compact, Json.decodeWritten]
  exact decisionsRead 126 ascending

theorem payloadRead (ascending : Sorted.Ascending entryOrder d.entries) :
    Json.decodeText ofPayload d.payload = .ok e ↔ d.Finite ∧ e = d := by
  have distinct : ([Json.Slot.of "decisions" true ofJson fun d (_ : Decisions) => d].map
      Json.Slot.name).Nodup := List.nodup_singleton _
  have inside : ofPayload (Json.kept Json.nestingLimit (.object [("decisions", d.toJson)])) =
      ofJson (Json.kept 126 d.toJson) := by
    refine (Json.recordInOrder distinct rfl).trans ?_
    change (ofJson (Json.kept 126 d.toJson)).map _ >>= _ = _
    cases ofJson (Json.kept 126 d.toJson) <;> rfl
  rw [payload, Json.compact, Json.decodeWritten, inside, decisionsRead 125 ascending]

end Decisions

namespace Candidate

variable {features : FeatureSource} {c : Candidate} {d : Decisions}

def SolvesFinite (features : FeatureSource) (c : Candidate) : Prop :=
  ∀ entry ∈ c.entries, ∀ x, entry.2.solve features = .ok (.float x) → x.isFinite

theorem eachFinite {entries : List Entry} {decisions : List (String × Value)}
    (each : List.Forall₂ (Decided features) entries decisions) :
    (∀ decision ∈ decisions, decision.2.isNonFinite = false) ↔
      ∀ entry ∈ entries, ∀ x, entry.2.solve features = .ok (.float x) → x.isFinite := by
  induction each with
  | nil => exact iff_of_true (List.forall_mem_nil _) (List.forall_mem_nil _)
  | cons here _ ih =>
    rw [List.forall_mem_cons, List.forall_mem_cons, ih, here.2]
    refine and_congr_left fun _ => ?_
    simp only [Except.ok.injEq]
    exact Value.finiteFloat

theorem decidedFinite (wellFormed : c.WellFormed) (decided : c.decide features = .ok d) :
    d.Finite ↔ c.SolvesFinite features :=
  eachFinite ((decideEach wellFormed.ascending).mp decided)

theorem floatlessFinite (wellFormed : c.WellFormed) (typed : features.Typed)
    (floatless : ∀ entry ∈ c.entries, entry.1.type ≠ .float) : c.SolvesFinite features := by
  intro entry mem x solved
  obtain ⟨wellTyped, type⟩ := wellFormed.typed entry mem
  have safe := Formula.safeResult typed wellTyped
  rw [solved] at safe
  cases safe with
  | value same => exact absurd (type.symm.trans same.symm) (floatless entry mem)

/-- What a command is given reads back as the decisions of a candidate, with their types and bits,
exactly if no formula has a value that is not finite; otherwise it cannot be read. -/
theorem payloadFaithful (wellFormed : c.WellFormed) (decided : c.decide features = .ok d) :
    (∀ e, Json.decodeText Decisions.ofPayload d.payload = .ok e ↔
      c.SolvesFinite features ∧ e = d) ∧
    (∀ e, Decisions.parse d.compact = .ok e ↔ c.SolvesFinite features ∧ e = d) ∧
    (features.Typed → (∀ entry ∈ c.entries, entry.1.type ≠ .float) → c.SolvesFinite features) := by
  have ascending : Sorted.Ascending Decisions.entryOrder d.entries := decideAscending decided
  have finite : d.Finite ↔ c.SolvesFinite features := decidedFinite wellFormed decided
  refine ⟨fun e => ?_, fun e => ?_, floatlessFinite wellFormed⟩
  · rw [← finite]
    exact Decisions.payloadRead ascending
  · rw [← finite]
    exact Decisions.textRead ascending

/-- Formulas of all four types; the product is a negative zero. -/
def settled : Candidate :=
  ⟨[(⟨"gvn", .bool⟩, .literal (.bool true)), (⟨"~gvn.0", .int⟩, .literal (.int Int64.minValue)),
    (⟨"~gvn.1", .float⟩, .arithmetic .float .mul (.literal (.float .zero))
      (.literal (.float (.ofDecimal true 1 0)))),
    (⟨"~gvn.2", .string⟩, .literal (.string "a\"b\\π\n"))], .zero, 0⟩

theorem payloadFaithfulSettled :
    let d : Decisions := ⟨[("gvn", .bool true), ("~gvn.0", .int Int64.minValue),
      ("~gvn.1", .float ⟨0x8000000000000000⟩), ("~gvn.2", .string "a\"b\\π\n")]⟩
    settled.decide FeatureSet.empty.source = .ok d ∧
      Json.decodeText Decisions.ofPayload d.payload = .ok d := by
  intro d
  have wellFormed : settled.WellFormed := ⟨by decide, by decide⟩
  have decided : settled.decide FeatureSet.empty.source = .ok d := by decide +kernel
  have finite := (decidedFinite wellFormed decided).mp (by decide)
  exact ⟨decided, ((payloadFaithful wellFormed decided).1 d).mpr ⟨finite, rfl⟩⟩

/-- The product of two literals that exceeds every double. -/
def excessive : Candidate :=
  ⟨[(⟨"gvn", .bool⟩, .literal (.bool true)),
    (⟨"~gvn.0", .float⟩, .arithmetic .float .mul (.literal (.float (.ofDecimal false 1 308)))
      (.literal (.float (.ofDecimal false 1 1))))], .zero, 0⟩

theorem payloadLost : ¬∀ (c : Candidate) (set : FeatureSet) (d : Decisions), c.WellFormed →
    c.decide set.source = .ok d → Json.decodeText Decisions.ofPayload d.payload = .ok d := by
  intro faithful
  have decided : excessive.decide FeatureSet.empty.source =
      .ok ⟨[("gvn", .bool true), ("~gvn.0", .float .infinity)]⟩ := by decide +kernel
  have read := faithful excessive FeatureSet.empty _ ⟨by decide, by decide⟩ decided
  have finite := ((Decisions.payloadRead (decideAscending decided)).mp read).1
  exact absurd finite (by decide)

end Candidate

end PassTuner

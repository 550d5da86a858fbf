import PassTuner.Proofs.Candidate.Record
import PassTuner.Proofs.Decision.Enabled
import PassTuner.Proofs.Formula.Soundness

/-! Deciding is all or nothing.

Either every formula of a candidate has a value, and then the decisions are these values under the
names of their points, each of the type of its point; or there are no decisions, and the error is
that of the first formula in name order that has none. Nothing takes the place of a value. -/
namespace PassTuner.Candidate
open Std

variable {features : FeatureSource} {c : Candidate} {d done : Decisions} {e : EvalError}
variable {entry : Entry} {entries : List Entry} {decisions : List (String × Value)}

def Solves (features : FeatureSource) (entry : Entry) : Prop :=
  ∃ value, entry.2.solve features = .ok value

/- The earlier decisions take no part in whether the later ones are made. -/
theorem decideEntriesSolves :
    (∃ d, decideEntries features entries done = .ok d) ↔ ∀ entry ∈ entries, Solves features entry := by
  induction entries generalizing done with
  | nil => simp [decideEntries]
  | cons entry rest ih =>
    obtain ⟨point, f⟩ := entry
    unfold decideEntries
    rw [List.forall_mem_cons, Solves]
    cases solved : f.solve features with
    | error cause => simp [bind, Except.bind]
    | ok value => simpa [bind, Except.bind] using ih

theorem decideEntriesFirst (failed : decideEntries features entries done = .error e) :
    ∃ before entry after, entries = before ++ entry :: after ∧
      (∀ earlier ∈ before, Solves features earlier) ∧ entry.2.solve features = .error e := by
  induction entries generalizing done with
  | nil => simp [decideEntries] at failed
  | cons entry rest ih =>
    obtain ⟨point, f⟩ := entry
    unfold decideEntries at failed
    cases solved : f.solve features with
    | error cause =>
      simp only [solved, bind, Except.bind, Except.error.injEq] at failed
      exact ⟨[], (point, f), rest, rfl, List.forall_mem_nil _, failed ▸ solved⟩
    | ok value =>
      simp only [solved, bind, Except.bind] at failed
      obtain ⟨before, entry, after, rfl, solves, failed⟩ := ih failed
      exact ⟨(point, f) :: before, entry, after, rfl,
        List.forall_mem_cons.mpr ⟨⟨value, solved⟩, solves⟩, failed⟩

theorem decideEntriesThrough {before rest : List Entry}
    (solves : ∀ earlier ∈ before, Solves features earlier) : ∃ later,
      decideEntries features (before ++ rest) done = decideEntries features rest later := by
  induction before generalizing done with
  | nil => exact ⟨done, rfl⟩
  | cons entry before ih =>
    obtain ⟨point, f⟩ := entry
    obtain ⟨⟨value, solved⟩, others⟩ := List.forall_mem_cons.mp solves
    obtain ⟨later, through⟩ := @ih (done.insert point.name value) others
    refine ⟨later, Eq.trans ?_ through⟩
    simp [decideEntries, solved, bind, Except.bind]

theorem decideEntriesStops : decideEntries features entries done = .error e ↔
    ∃ before entry after, entries = before ++ entry :: after ∧
      (∀ earlier ∈ before, Solves features earlier) ∧ entry.2.solve features = .error e := by
  refine ⟨decideEntriesFirst, ?_⟩
  rintro ⟨before, ⟨point, f⟩, after, rfl, solves, failed⟩
  obtain ⟨later, through⟩ : ∃ later, decideEntries features (before ++ (point, f) :: after) done =
      decideEntries features ((point, f) :: after) later := decideEntriesThrough solves
  simp [through, decideEntries, failed, bind, Except.bind]

/- In name order the first is the one with the least name. -/
theorem leastFailing (ascending : Sorted.Ascending placeOrder entries) :
    (∃ before entry after, entries = before ++ entry :: after ∧
      (∀ earlier ∈ before, Solves features earlier) ∧ entry.2.solve features = .error e) ↔
    ∃ entry ∈ entries, entry.2.solve features = .error e ∧
      ∀ other ∈ entries, compare other.1.name entry.1.name = .lt → Solves features other := by
  constructor
  · rintro ⟨before, entry, after, rfl, solves, failed⟩
    refine ⟨entry, by simp, failed, fun other mem less => ?_⟩
    rcases List.mem_append.mp mem with earlier | later
    · exact solves other earlier
    · have above := (List.pairwise_append.mp ascending).2.1
      rcases List.mem_cons.mp later with rfl | later
      · simp at less
      · have behind : compare entry.1.name other.1.name = .lt :=
          (List.pairwise_cons.mp above).1 other later
        cases behind.symm.trans (OrientedCmp.gt_of_lt less)
  · rintro ⟨entry, mem, failed, solves⟩
    obtain ⟨before, after, rfl⟩ := List.append_of_mem mem
    refine ⟨before, entry, after, rfl, fun earlier inside => ?_, failed⟩
    exact solves earlier (List.mem_append_left _ inside)
      ((List.pairwise_append.mp ascending).2.2 earlier inside entry List.mem_cons_self)

theorem decidedNames (each : List.Forall₂ (Decided features) entries decisions) :
    decisions.map Prod.fst = entries.map (·.1.name) := by
  induction each with
  | nil => rfl
  | cons here others ih => simp [here.1, ih]

theorem decidedMember (each : List.Forall₂ (Decided features) entries decisions)
    {name : String} {value : Value} : (name, value) ∈ decisions ↔
      ∃ entry ∈ entries, entry.1.name = name ∧ entry.2.solve features = .ok value := by
  induction each with
  | nil => simp
  | @cons entry decision rest others here each ih =>
    obtain ⟨name', value'⟩ := decision
    obtain ⟨rfl, solved⟩ := here
    rw [List.mem_cons, ih, List.exists_mem_cons_iff, solved, Prod.mk.injEq, Except.ok.injEq]
    simp only [eq_comm]

structure Decides (set : FeatureSet) (c : Candidate) : Prop where
  whole : (∃ d, c.decide set = .ok d) ↔ ∀ entry ∈ c.entries, Solves set entry
  names {d : Decisions} (ok : c.decide set = .ok d) : d.names = c.entries.map (·.1.name)
  values {d : Decisions} (ok : c.decide set = .ok d) (name : String) (value : Value) :
    d.get? name = some value ↔
      ∃ entry ∈ c.entries, entry.1.name = name ∧ entry.2.solve set = .ok value
  typed {d : Decisions} (ok : c.decide set = .ok d) : ∀ entry ∈ c.entries,
    ∃ value, d.get? entry.1.name = some value ∧ value.type = entry.1.type
  failure (e : EvalError) : c.decide set = .error e ↔
    ∃ entry ∈ c.entries, entry.2.solve set = .error e ∧
      ∀ other ∈ c.entries, compare other.1.name entry.1.name = .lt → Solves set other

theorem decidesWhole (set : FeatureSet) (wellFormed : c.WellFormed) : c.Decides set := by
  have values {d : Decisions} (ok : c.decide set = .ok d) (name : String) (value : Value) :
      d.get? name = some value ↔
        ∃ entry ∈ c.entries, entry.1.name = name ∧ entry.2.solve set = .ok value := by
    rw [Decisions.getListed (decideAscending ok)]
    exact decidedMember ((decideEach wellFormed.ascending).mp ok)
  constructor
  case whole => exact decideEntriesSolves
  case names => exact fun ok => decidedNames ((decideEach wellFormed.ascending).mp ok)
  case values => exact values
  case typed =>
    intro d ok entry mem
    obtain ⟨value, solved⟩ := decideEntriesSolves.mp ⟨d, ok⟩ entry mem
    obtain ⟨wellTyped, type⟩ := wellFormed.typed entry mem
    refine ⟨value, (values ok _ _).mpr ⟨entry, mem, rfl, solved⟩, ?_⟩
    rw [Formula.solvedType set.sourceTyped wellTyped solved, type]
  case failure => exact fun e => decideEntriesStops.trans (leastFailing wellFormed.ascending)

/- Of the two arguments neither has a value; the first has no feature to look up. -/
def unmeasured : Candidate :=
  ⟨[(⟨"gvn", .bool⟩, .literal (.bool true)), (⟨"~gvn.0", .int⟩, .feature .int ⟨"n", ""⟩),
    (⟨"~gvn.1", .int⟩, .arithmetic .int .div (.literal (.int 1)) (.literal (.int 0)))], .zero, 0⟩

theorem decidesWholeUnmeasured : unmeasured.WellFormed ∧ unmeasured.Decides FeatureSet.empty ∧
    unmeasured.decide FeatureSet.empty.source = .error (.feature (.unknown ⟨"n", ""⟩)) :=
  have wellFormed : unmeasured.WellFormed := ⟨by decide, by decide⟩
  ⟨wellFormed, decidesWhole FeatureSet.empty wellFormed, by decide +kernel⟩

end PassTuner.Candidate

import PassTuner.Proofs.Checked
import PassTuner.Proofs.Order
import PassTuner.Proofs.Sorted

/-! The names that decisions have, and those among them that are switched on.

Decisions stay in name order, each name once, so a name is looked up where it is listed. The
decisions of a candidate have the names of its entries. -/
namespace PassTuner
open Std

namespace Decisions

instance : TransCmp entryOrder :=
  inferInstanceAs (TransCmp (compareOn (Prod.fst : String × Value → String)))

variable {d : Decisions} {name : String}

def names (d : Decisions) : List String := d.entries.map Prod.fst

theorem insertNames (d : Decisions) (name : String) (value : Value) (other : String) :
    other ∈ (d.insert name value).names ↔ other = name ∨ other ∈ d.names := by
  constructor
  · intro mem
    obtain ⟨entry, inside, rfl⟩ := List.mem_map.mp mem
    rcases Sorted.upsertMem inside with rfl | old
    · exact .inl rfl
    · exact .inr (List.mem_map_of_mem old)
  · rintro (rfl | mem)
    · exact List.mem_map.mpr ⟨(other, value), Sorted.upsertSelf _ _, rfl⟩
    · obtain ⟨entry, inside, rfl⟩ := List.mem_map.mp mem
      have kept : entry ∈ (d.insert name value).entries ∨ entryOrder (name, value) entry = .eq :=
        Sorted.upsertKeeps inside
      rcases kept with kept | same
      · exact List.mem_map_of_mem kept
      · have named : name = entry.1 := LawfulEqOrd.eq_of_compare same
        exact List.mem_map.mpr ⟨(name, value), Sorted.upsertSelf _ _, named⟩

theorem insertLast {done : List (String × Value)} {name : String}
    (above : ∀ other ∈ done.map Prod.fst, compare other name = .lt) (value : Value) :
    insert ⟨done⟩ name value = ⟨done ++ [(name, value)]⟩ :=
  congrArg mk (Sorted.upsertLast fun _ mem => OrientedCmp.gt_of_lt (above _ (List.mem_map_of_mem mem)))

theorem namesDistinct (ascending : Sorted.Ascending entryOrder d.entries) : d.names.Nodup :=
  Sorted.keysDistinct (fun a b same => by simp [entryOrder, same]) ascending

theorem getListed (ascending : Sorted.Ascending entryOrder d.entries) {value : Value} :
    d.get? name = some value ↔ (name, value) ∈ d.entries :=
  Sorted.foundKeyed (namesDistinct ascending)

theorem enabledNamed (on : d.isEnabled name) : name ∈ d.names := by
  obtain ⟨entry, first, _⟩ := Option.map_eq_some_iff.mp (beq_iff_eq.mp on)
  have named : entry.1 = name := by simpa using List.find?_some first
  exact named ▸ List.mem_map_of_mem (List.mem_of_find?_eq_some first)

theorem enabledNames (ascending : Sorted.Ascending entryOrder d.entries) :
    name ∈ d.enabled ↔ d.isEnabled name ∧ ¬DecisionPoint.isArgumentName name := by
  have listed : d.isEnabled name ↔ (name, .bool true) ∈ d.entries := by
    rw [isEnabled, beq_iff_eq, getListed ascending]
  rw [listed, enabled, List.mem_map]
  constructor
  · rintro ⟨⟨other, value⟩, mem, rfl⟩
    obtain ⟨inside, chosen⟩ := List.mem_filter.mp mem
    simp only [Bool.and_eq_true, Bool.not_eq_true', beq_iff_eq] at chosen
    obtain ⟨plain, rfl⟩ := chosen
    exact ⟨inside, by simp [plain]⟩
  · rintro ⟨inside, plain⟩
    exact ⟨_, List.mem_filter.mpr ⟨inside, by simpa using plain⟩, rfl⟩

theorem enabledAscending (ascending : Sorted.Ascending entryOrder d.entries) :
    Sorted.Ascending compare d.enabled := List.pairwise_map.mpr (ascending.filter _)

end Decisions

namespace Candidate

variable {features : FeatureSource} {c : Candidate} {d e : Decisions} {entries : List Entry}

theorem decideEntriesNames (ok : decideEntries features entries d = .ok e) :
    (∀ name, name ∈ e.names ↔ name ∈ d.names ∨ name ∈ entries.map (·.1.name)) ∧
      (Sorted.Ascending Decisions.entryOrder d.entries →
        Sorted.Ascending Decisions.entryOrder e.entries) := by
  induction entries generalizing d with
  | nil =>
    cases ok
    simp
  | cons entry rest ih =>
    obtain ⟨point, f⟩ := entry
    obtain ⟨value, _, ok⟩ := Checked.bindOk.mp ok
    obtain ⟨names, ascending⟩ := ih ok
    refine ⟨fun name => ?_, fun before => ascending (Sorted.upsertAscending before _)⟩
    rw [names, Decisions.insertNames, List.map_cons, List.mem_cons, or_assoc, or_left_comm]

theorem decideNames (ok : c.decide features = .ok d) (name : String) :
    name ∈ d.names ↔ ∃ entry ∈ c.entries, entry.1.name = name := by
  rw [(decideEntriesNames ok).1]
  simp [Decisions.names, Decisions.empty]

theorem decideAscending (ok : c.decide features = .ok d) :
    Sorted.Ascending Decisions.entryOrder d.entries :=
  (decideEntriesNames ok).2 List.Pairwise.nil

/-- The decision of an entry: its name, and the value of its formula. -/
def Decided (features : FeatureSource) (entry : Entry) (decision : String × Value) : Prop :=
  decision.1 = entry.1.name ∧ entry.2.solve features = .ok decision.2

/-- The decisions of entries in name order are made one by one, behind those made already. -/
theorem decideEntriesEach {done : List (String × Value)}
    (ascending : Sorted.Ascending compare (done.map Prod.fst ++ entries.map (·.1.name))) :
    decideEntries features entries ⟨done⟩ = .ok d ↔
      ∃ more, d.entries = done ++ more ∧ List.Forall₂ (Decided features) entries more := by
  induction entries generalizing done with
  | nil =>
    constructor
    · intro ok
      cases ok
      exact ⟨[], (List.append_nil _).symm, .nil⟩
    · rintro ⟨_, same, none⟩
      cases none
      rw [List.append_nil] at same
      exact congrArg Except.ok (congrArg Decisions.mk same.symm)
  | cons entry rest ih =>
    obtain ⟨point, f⟩ := entry
    have inserted (value : Value) :
        Decisions.insert ⟨done⟩ point.name value = ⟨done ++ [(point.name, value)]⟩ :=
      Decisions.insertLast (fun other mem =>
        (List.pairwise_append.mp ascending).2.2 other mem _ List.mem_cons_self) value
    have later (value : Value) : Sorted.Ascending compare
        ((done ++ [(point.name, value)]).map Prod.fst ++ rest.map (·.1.name)) := by
      simpa using ascending
    constructor
    · intro ok
      obtain ⟨value, solved, ok⟩ := Checked.bindOk.mp ok
      rw [inserted value] at ok
      obtain ⟨more, same, others⟩ := (ih (later value)).mp ok
      exact ⟨(point.name, value) :: more, by simpa using same, .cons ⟨rfl, solved⟩ others⟩
    · rintro ⟨_, same, decided⟩
      cases decided with
      | @cons _ decision _ more here others =>
        obtain ⟨name, value⟩ := decision
        obtain ⟨rfl, solved⟩ := here
        refine Checked.bindOk.mpr ⟨value, solved, ?_⟩
        rw [inserted value]
        exact (ih (later value)).mpr ⟨more, by simpa using same, others⟩

/-- A candidate decides exactly if all its formulas have values, and these are its decisions. -/
theorem decideEach (ascending : Sorted.Ascending placeOrder c.entries) :
    c.decide features = .ok d ↔ List.Forall₂ (Decided features) c.entries d.entries := by
  have each : decideEntries features c.entries ⟨[]⟩ = .ok d ↔
      ∃ more, d.entries = [] ++ more ∧ List.Forall₂ (Decided features) c.entries more :=
    decideEntriesEach (List.pairwise_map.mpr ascending)
  rw [decide, Decisions.empty, each]
  simp

end Candidate

end PassTuner

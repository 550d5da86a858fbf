import PassTuner.Candidate.Record
import PassTuner.Proofs.Formula.Record
import PassTuner.Proofs.Order
import PassTuner.Proofs.Sorted

/-! Candidate records and well-formed candidates.

A candidate is well-formed if its entries stand in the order of their names, none of them twice,
and each formula keeps the rules of the grammar and has the type of its point. The records of
well-formed candidates are accepted, and nothing but well-formed candidates is accepted. -/
namespace PassTuner.Candidate
open Std

/-- An entry whose formula has the type of the point. -/
def Typed (entry : Entry) : Prop := entry.2.HasType entry.1.type

instance (entry : Entry) : Decidable (Typed entry) :=
  inferInstanceAs (Decidable (entry.2.HasType entry.1.type))

structure WellFormed (c : Candidate) : Prop where
  ascending : Sorted.Ascending placeOrder c.entries
  typed : ∀ entry ∈ c.entries, Typed entry

instance (c : Candidate) : Decidable c.WellFormed :=
  decidable_of_iff (Sorted.Ascending placeOrder c.entries ∧ ∀ entry ∈ c.entries, Typed entry)
    ⟨fun ⟨ascending, typed⟩ => ⟨ascending, typed⟩, fun ⟨ascending, typed⟩ => ⟨ascending, typed⟩⟩

theorem entryFormulaOk {r : EntryRecord} {f : Formula} :
    entryFormula r = .ok f ↔ Formula.ofRecord r.formula = .ok f ∧ f.type = r.type := by
  rw [entryFormula]
  split
  · rename_i refused
    rw [refused]
    exact ⟨nofun, nofun⟩
  · rename_i g read
    rw [read]
    split
    · rename_i same
      constructor
      · intro ok
        cases ok
        exact ⟨rfl, same⟩
      · rintro ⟨ok, _⟩
        cases ok
        rfl
    · rename_i apart
      refine ⟨nofun, ?_⟩
      rintro ⟨ok, same⟩
      cases ok
      exact absurd same apart

theorem placeOfName {entry other : Entry} (same : entry.1.name = other.1.name) :
    placeOrder entry other = .eq := by
  simp [placeOrder, DecisionPoint.order, same]

/-- An entry under a new name is put in its place. -/
theorem collectFresh {r : EntryRecord} {f : Formula} {entries : List Entry}
    (rest : List EntryRecord) (built : Formula.ofRecord r.formula = .ok f)
    (same : f.type = r.type) (fresh : r.name ∉ (entries.map entryRecord).map EntryRecord.name) :
    collectEntries (r :: rest) entries =
      collectEntries rest (Sorted.upsert placeOrder (⟨r.name, r.type⟩, f) entries) := by
  rw [collectEntries, entryFormulaOk.mpr ⟨built, same⟩]
  have none : ¬entries.any fun entry => entry.1.name == r.name := by
    simpa [entryRecord] using fresh
  exact if_neg none

/-- The entries of records are collected behind those that are there already. -/
theorem collectRebuilt {done rest : List Entry}
    (ascending : Sorted.Ascending placeOrder (done ++ rest)) (typed : ∀ entry ∈ rest, Typed entry) :
    collectEntries (rest.map entryRecord) done = .ok (done ++ rest) := by
  induction rest generalizing done with
  | nil => rw [List.append_nil]; rfl
  | cons entry rest ih =>
    obtain ⟨⟨wellTyped, type⟩, later⟩ := List.forall_mem_cons.mp typed
    have below : ∀ other ∈ done, placeOrder other entry = .lt := fun other mem =>
      (List.pairwise_append.mp ascending).2.2 other mem entry List.mem_cons_self
    have last : Sorted.upsert placeOrder entry done = done ++ [entry] :=
      Sorted.upsertLast fun other mem => OrientedCmp.gt_of_lt (below other mem)
    have fresh : entry.1.name ∉ (done.map entryRecord).map EntryRecord.name := by
      intro taken
      obtain ⟨_, recorded, named⟩ := List.mem_map.mp taken
      obtain ⟨other, mem, rfl⟩ := List.mem_map.mp recorded
      have equal := placeOfName named
      rw [below other mem] at equal
      contradiction
    have behind : Sorted.Ascending placeOrder ((done ++ [entry]) ++ rest) := by
      simpa using ascending
    have others := ih behind later
    rw [List.append_assoc] at others
    rw [List.map_cons, collectFresh _ (Formula.ofRecordRecord wellTyped) type fresh]
    exact last.symm ▸ others

theorem ofRecordRebuilt {c : Candidate} (wellFormed : c.WellFormed) :
    ofRecord c.toRecord = .ok c := by
  have entries : collectEntries (c.entries.map entryRecord) [] = .ok c.entries :=
    collectRebuilt wellFormed.ascending wellFormed.typed
  exact Checked.mapOk.mpr ⟨c.entries, entries, rfl⟩

theorem collectSource {records : List EntryRecord} {entries collected : List Entry}
    (ok : collectEntries records entries = .ok collected)
    (ascending : Sorted.Ascending placeOrder entries) (typed : ∀ entry ∈ entries, Typed entry) :
    Sorted.Ascending placeOrder collected ∧ ∀ entry ∈ collected, Typed entry := by
  induction records generalizing entries with
  | nil =>
    cases ok
    exact ⟨ascending, typed⟩
  | cons r rest ih =>
    obtain ⟨f, formula, ok⟩ := Checked.bindOk.mp ok
    obtain ⟨read, type⟩ := entryFormulaOk.mp formula
    split at ok <;> try contradiction
    exact ih ok (Sorted.upsertAscending ascending _)
      (Sorted.upsertAll ⟨(Formula.ofRecordSource read).1, type⟩ typed)

theorem ofRecordWellFormed {r : CandidateRecord} {c : Candidate} (ok : ofRecord r = .ok c) :
    c.WellFormed := by
  obtain ⟨entries, collected, rfl⟩ := Checked.mapOk.mp ok
  obtain ⟨ascending, typed⟩ := collectSource collected List.Pairwise.nil nofun
  exact ⟨ascending, typed⟩

end PassTuner.Candidate

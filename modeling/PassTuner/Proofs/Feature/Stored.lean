import PassTuner.Feature.Stored
import PassTuner.Proofs.Feature.Queries
import PassTuner.Proofs.Formula.Stored

/-! Tables of features in files.

A table that is written comes back as it was, with the types and the bits of its values, unless it
holds a float that is not finite: then it does not come back at all. A file that was not written from
a table may list a reference more than once, and may list them in any order; what it gives last
counts. -/
namespace PassTuner.FeatureSet
open Json (Restores)

variable {set read : FeatureSet} {entries : List (FeatureRef × Value)}

/-- Whether every float in a table is finite. -/
def Finite (set : FeatureSet) : Prop := ∀ entry ∈ set.entries, entry.2.isNonFinite = false

theorem entryRead {name sub : String} {value : Json} {entry : FeatureRef × Value} :
    entryOfJson (.object [("name", .string name), ("sub", .string sub), ("value", value)]) =
      .ok entry ↔ ∃ v, Value.ofJson value = .ok v ∧ (⟨name, sub⟩, v) = entry := by
  rw [entryOfJson, Json.recordInOrder (by decide) rfl]
  simp only [entrySlots, List.map_cons, List.map_nil, Json.fillItems, Json.Slot.of, Checked.bindOk,
    Checked.mapOk]
  constructor
  · rintro ⟨_, ⟨_, named, rfl⟩, _, ⟨_, part, rfl⟩, _, ⟨v, read, rfl⟩, ok⟩
    cases named
    cases part
    exact ⟨v, read, Except.ok.inj ok⟩
  · rintro ⟨v, read, rfl⟩
    exact ⟨_, ⟨_, rfl, rfl⟩, _, ⟨_, rfl, rfl⟩, _, ⟨v, read, rfl⟩, rfl⟩

theorem entryRestored (room : Nat) :
    Restores entryToJson entryOfJson (room + 1) fun entry => entry.2.isNonFinite = false := by
  rintro ⟨⟨name, sub⟩, value⟩ read
  simp only [entryToJson, Json.keptObject, Json.keptFields, Json.keptField, Json.keptString,
    entryRead, Value.valueRestored room value _, and_assoc, exists_and_left, exists_eq_left']

/-- The entries that a text lists, in the order of the text. -/
def listed (text : String) : Except ReadError (List (FeatureRef × Value)) :=
  Json.decodeText (Json.asArray entryOfJson) text

theorem parseListed {text : String} :
    parse text = .ok read ↔ ∃ entries, listed text = .ok entries ∧ ofList entries = read := by
  rw [← Checked.mapOk, listed, ← Json.decodeMapped]
  rfl

/-- A list of entries is written in either layout, whether or not it repeats a reference. -/
theorem listedWritten (style : Json.Style) (entries others : List (FeatureRef × Value)) :
    listed (String.ofList (Json.write style 0 (.array (entries.map entryToJson)))) = .ok others ↔
      (∀ entry ∈ entries, entry.2.isNonFinite = false) ∧ entries = others :=
  Json.textRestored (Json.arrayRestored (entryRestored 125)) style entries others

/-- The table of a list of entries is told by its order and by what each reference was given last. -/
theorem ofListSame : ofList entries = read ↔ Sorted.Ascending entryOrder read.entries ∧
    ∀ ref value, (ref, value) ∈ read.entries ↔ LastGiven entries ref value := by
  have ascending := ofListAscending entries
  have last (ref : FeatureRef) (value : Value) :
      (ref, value) ∈ (ofList entries).entries ↔ LastGiven entries ref value :=
    (findMem ascending).symm.trans ofListFind
  constructor
  · rintro rfl
    exact ⟨ascending, last⟩
  · rintro ⟨ordered, lastRead⟩
    have same : (ofList entries).entries = read.entries := by
      refine Sorted.ascendingUnique ascending ordered fun entry => ?_
      exact (last entry.1 entry.2).trans (lastRead entry.1 entry.2).symm
    exact congrArg FeatureSet.mk same

theorem ofListRebuilt (ascending : Sorted.Ascending entryOrder set.entries) :
    ofList set.entries = set := by
  refine ofListSame.mpr ⟨ascending, fun ref value => ⟨fun mem => ?_, ?_⟩⟩
  · obtain ⟨earlier, later, whole⟩ := List.append_of_mem mem
    refine ⟨earlier, later, whole, fun entry inside same => ?_⟩
    rw [whole] at ascending
    have behind := (List.pairwise_cons.mp (List.pairwise_append.mp ascending).2.1).1 entry inside
    have equal : entryOrder (ref, value) entry = .eq := entrySame.mpr same.symm
    rw [equal] at behind
    contradiction
  · rintro ⟨earlier, later, whole, _⟩
    exact whole ▸ List.mem_append_right earlier List.mem_cons_self

/-- A written table is read back as itself if all its floats are finite, and is not read otherwise;
and of any entries that are read, those count that are the last of their reference. -/
theorem storedRestored :
    (∀ (entries : List (FeatureRef × Value)) (read : FeatureSet),
      parse (ofList entries).pretty = .ok read ↔
        (ofList entries).Finite ∧ read = ofList entries) ∧
    ∀ (text : String) (read : FeatureSet), parse text = .ok read ↔
      ∃ entries, listed text = .ok entries ∧ Sorted.Ascending entryOrder read.entries ∧
        ∀ ref value, (ref, value) ∈ read.entries ↔ LastGiven entries ref value := by
  refine ⟨fun entries read => ?_, fun text read => ?_⟩
  · have rebuilt : ofList (ofList entries).entries = ofList entries :=
      ofListRebuilt (ofListAscending entries)
    rw [parseListed]
    constructor
    · rintro ⟨_, ok, rfl⟩
      obtain ⟨finite, rfl⟩ := (listedWritten .indented _ _).mp ok
      exact ⟨finite, rebuilt⟩
    · rintro ⟨finite, rfl⟩
      exact ⟨_, (listedWritten .indented _ _).mpr ⟨finite, rfl⟩, rebuilt⟩
  · simp only [parseListed, ofListSame]

/-! A part that is left out is the empty one, and the later of two entries counts. -/

example :
    let once : Json := .object [("name", .string "n"), ("value", .int 1)]
    let again : Json := .object [("name", .string "n"), ("sub", .string ""), ("value", .bool true)]
    parse (String.ofList (Json.array [once, again]).compact) =
      .ok ⟨[(⟨"n", ""⟩, .bool true)]⟩ := by decide +kernel

end PassTuner.FeatureSet

import PassTuner.Proofs.Candidate.Completion

/-! Dropping what does not fit the active points, and drawing what is missing then.

An entry is dropped for its name, for the type of its point or for that of its formula, while a
point counts as missing only by its name. So every point that lost its entry is filled again, and a
second round finds nothing to do. -/
namespace PassTuner.Candidate
open Std

variable {points : List DecisionPoint} {c filled : Candidate} {entry : Entry}

theorem activeIff (ordered : Sorted.Ascending DecisionPoint.order points) :
    isActive points entry ↔ entry.1 ∈ points ∧ entry.2.type = entry.1.type := by
  constructor
  · intro active
    have point := activePoint active
    rw [isActive, DecisionPoint.findActive ordered point] at active
    exact ⟨point, by simpa using active⟩
  · rintro ⟨point, typed⟩
    rw [isActive, DecisionPoint.findActive ordered point]
    simp [typed]

theorem retainedMem (ordered : Sorted.Ascending DecisionPoint.order points) :
    entry ∈ (c.retain points).1.entries ↔
      entry ∈ c.entries ∧ entry.1 ∈ points ∧ entry.2.type = entry.1.type := by
  rw [← activeIff ordered]
  exact List.mem_filter

theorem entriesDistinct (ascending : Sorted.Ascending placeOrder c.entries) : c.entries.Nodup := by
  have names := DecisionPoint.namesDistinct (ascendingPoints.mp ascending)
  exact (names.of_map DecisionPoint.name).of_map Prod.fst

/-- What is left once the gaps of what was kept have been filled. -/
structure Refilled (points : List DecisionPoint) (c filled : Candidate) (added : Nat) : Prop where
  places : filled.entries.map Prod.fst = points
  typed : ∀ entry ∈ filled.entries, entry.2.type = entry.1.type
  kept : ∀ entry ∈ (c.retain points).1.entries, entry ∈ filled.entries
  drawn : ∀ entry ∈ filled.entries, entry ∉ (c.retain points).1.entries →
    entry.2.simplify = (entry.2, false)
  size : (c.retain points).1.size + added = filled.size

namespace Refilled

variable {added : Nat}

theorem common (refilled : Refilled points c filled added)
    (ordered : Sorted.Ascending DecisionPoint.order points) (entry : Entry) :
    entry ∈ (c.retain points).1.entries ↔ entry ∈ filled.entries ∧ entry ∈ c.entries := by
  constructor
  · exact fun mem => ⟨refilled.kept entry mem, ((retainedMem ordered).mp mem).1⟩
  · rintro ⟨inside, mem⟩
    have point : entry.1 ∈ points := refilled.places ▸ List.mem_map_of_mem inside
    exact (retainedMem ordered).mpr ⟨mem, point, refilled.typed entry inside⟩

theorem dropped (refilled : Refilled points c filled added)
    (ordered : Sorted.Ascending DecisionPoint.order points) :
    (c.retain points).2 = c.entries.countP fun entry => entry ∉ filled.entries := by
  have stays : ∀ entry ∈ c.entries, entry ∈ filled.entries ↔ isActive points entry := by
    intro entry mem
    have both := refilled.common ordered entry
    rw [retainedMem ordered, ← activeIff ordered] at both
    simpa [mem] using both.symm
  have gone : c.entries.countP (fun entry => entry ∉ filled.entries) =
      c.entries.countP fun entry => ¬isActive points entry :=
    List.countP_congr fun entry mem => by simp [stays entry mem]
  have all := List.length_eq_countP_add_countP (l := c.entries) (isActive points)
  rw [gone, retain, ← List.countP_eq_length_filter]
  dsimp only
  omega

theorem gained (refilled : Refilled points c filled added)
    (ordered : Sorted.Ascending DecisionPoint.order points)
    (ascending : Sorted.Ascending placeOrder c.entries) :
    added = filled.entries.countP fun entry => entry ∉ c.entries := by
  have places : Sorted.Ascending placeOrder filled.entries :=
    ascendingPoints.mpr (refilled.places.symm ▸ ordered)
  have shared : (filled.entries.filter (· ∈ c.entries)).Perm (c.retain points).1.entries := by
    refine (List.perm_ext_iff_of_nodup ((entriesDistinct places).filter _)
      ((entriesDistinct ascending).filter _)).mpr fun entry => ?_
    rw [List.mem_filter, decide_eq_true_iff]
    exact (refilled.common ordered entry).symm
  have all := List.length_eq_countP_add_countP (l := filled.entries) (· ∈ c.entries)
  have size := refilled.size
  have alike := shared.length_eq
  rw [List.countP_eq_length_filter, alike] at all
  simp only [decide_not, Bool.decide_eq_true] at all ⊢
  simp only [Candidate.size] at size
  omega

end Refilled

theorem refillRefilled (set : FeatureSet) (grammar : Grammar)
    (ordered : Sorted.Ascending DecisionPoint.order points)
    (drawable : ∀ point ∈ points, point.type ≠ .string)
    (ascending : Sorted.Ascending placeOrder c.entries) (random : Random) :
    ∃ filled added rest, (((c.retain points).1.generateMissing set.source grammar points).run
      random = ((filled, .ok added), rest)) ∧ Refilled points c filled added := by
  obtain ⟨filled, added, rest, ran⟩ : ∃ filled added rest,
      (fillMissing set.source grammar points (c.retain points).1 0).run random =
        ((filled, .ok added), rest) := fillMissingYields set.sourceIndexed drawable _ 0 random
  have fills := fillMissingSource ran
  have active : ∀ entry ∈ (c.retain points).1.entries, entry.1 ∈ points := fun entry mem =>
    ((retainedMem ordered).mp mem).2.1
  refine ⟨filled, added, rest, ran, fills.placed ordered (ascending.filter _) active,
    fun entry mem => ?_, fills.kept, fun entry mem fresh => ?_, fills.size⟩
  · rcases fills.source entry mem with old | ⟨_, f, before, after, same, drawn⟩
    · exact ((retainedMem ordered).mp old).2.2
    · rw [same]
      exact (Formula.generateTyped drawn).simplified.2
  · rcases fills.source entry mem with old | ⟨_, f, before, after, same, drawn⟩
    · exact absurd old fresh
    · rw [same]
      exact Formula.simplifyTwice f

theorem pointsRefilled (set : FeatureSet) (grammar : Grammar) (c : Candidate)
    {points : List DecisionPoint} (ordered : Sorted.Ascending DecisionPoint.order points)
    (drawable : ∀ point ∈ points, point.type ≠ .string)
    (ascending : Sorted.Ascending placeOrder c.entries) (random : Random) :
    let retained := c.retain points
    ∃ filled added rest, (retained.1.generateMissing set.source grammar points).run random =
        ((filled, .ok added), rest) ∧
      filled.entries.map Prod.fst = points ∧
      (∀ entry ∈ filled.entries, entry.2.type = entry.1.type) ∧
      (∀ entry ∈ c.entries, entry.1 ∈ points → entry.2.type = entry.1.type →
        entry ∈ filled.entries) ∧
      (∀ entry ∈ filled.entries, entry ∉ c.entries → entry.2.simplify = (entry.2, false)) ∧
      retained.2 = c.entries.countP (fun entry => entry ∉ filled.entries) ∧
      added = filled.entries.countP (fun entry => entry ∉ c.entries) ∧
      filled.retain points = (filled, 0) ∧
      ∀ stream, (filled.generateMissing set.source grammar points).run stream =
        ((filled, .ok 0), stream) := by
  obtain ⟨filled, added, rest, ran, refilled⟩ :=
    refillRefilled set grammar ordered drawable ascending random
  refine ⟨filled, added, rest, ran, refilled.places, refilled.typed, fun entry mem point typed => ?_,
    fun entry mem fresh => ?_, refilled.dropped ordered, refilled.gained ordered ascending,
    retainFull ordered refilled.places refilled.typed, fun stream => ?_⟩
  · exact refilled.kept entry ((retainedMem ordered).mpr ⟨mem, point, typed⟩)
  · exact refilled.drawn entry mem fun old => fresh ((retainedMem ordered).mp old).1
  · exact generateMissingFull refilled.places

/-- Its flag is active and fits; of its arguments one is retyped, one holds a text, and one is not
active any more. -/
def outworn : Candidate :=
  ⟨[(⟨"gvn", .bool⟩, .boolean .bool .or (.literal (.bool true)) (.literal (.bool false))),
    (⟨"~gvn.0", .int⟩, .literal (.int 3)), (⟨"~gvn.1", .int⟩, .literal (.string "3")),
    (⟨"~old.0", .bool⟩, .literal (.bool true))], .two, 3⟩

def retypedPoints : List DecisionPoint :=
  [⟨"dce", .bool⟩, ⟨"gvn", .bool⟩, ⟨"~gvn.0", .float⟩, ⟨"~gvn.1", .int⟩]

theorem pointsRefilledRetyped :
    Sorted.Ascending DecisionPoint.order retypedPoints ∧
    (∀ point ∈ retypedPoints, point.type ≠ .string) ∧
    Sorted.Ascending placeOrder outworn.entries ∧ (outworn.retain retypedPoints).2 = 3 ∧
    ∃ filled rest, ((outworn.retain retypedPoints).1.generateMissing FeatureSet.empty.source .default
        retypedPoints).run ⟨5⟩ = ((filled, .ok 3), rest) ∧
      filled.entries.map Prod.fst = retypedPoints ∧ outworn.entries[0] ∈ filled.entries ∧
      filled.retain retypedPoints = (filled, 0) := by
  have ordered : Sorted.Ascending DecisionPoint.order retypedPoints := by decide
  have drawable : ∀ point ∈ retypedPoints, point.type ≠ .string := by decide
  have ascending : Sorted.Ascending placeOrder outworn.entries := by decide
  obtain ⟨filled, added, rest, ran, places, _, kept, _, _, _, again, _⟩ :=
    pointsRefilled FeatureSet.empty .default outworn ordered drawable ascending ⟨5⟩
  have three : added = 3 := by
    have drawn : ((outworn.retain retypedPoints).1.generateMissing FeatureSet.empty.source .default
      retypedPoints).run ⟨5⟩ |>.1.2 = .ok 3 := by decide +kernel
    rw [ran] at drawn
    exact Except.ok.inj drawn
  refine ⟨ordered, drawable, ascending, by decide, filled, rest, three ▸ ran, places,
    kept _ (by decide) (by decide) (by decide), again⟩

end PassTuner.Candidate

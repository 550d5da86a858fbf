import PassTuner.Proofs.Candidate.Evolution
import PassTuner.Proofs.Candidate.Record
import PassTuner.Proofs.Formula.Typing

/-! What dropping, evolving and filling leave of the shape of a candidate.

Dropping leaves entries whose points are active, evolving keeps every point and the type of its
formula, and filling adds the active points that are missing. A candidate that has been through
all three covers the active points: it has one entry for each and no other. -/
namespace PassTuner

namespace DecisionPoint

theorem namesDistinct {points : List DecisionPoint}
    (ascending : Sorted.Ascending order points) : (points.map name).Nodup :=
  Sorted.keysDistinct (fun a b same => by simp [order, same]) ascending

theorem collectAscending (points : List DecisionPoint) :
    Sorted.Ascending order (collect points) :=
  Sorted.insertedAscending List.Pairwise.nil

theorem findActive {points : List DecisionPoint} (ascending : Sorted.Ascending order points)
    {point : DecisionPoint} (mem : point ∈ points) : find? points point.name = some point :=
  Sorted.findKeyed (namesDistinct ascending) mem

end DecisionPoint

namespace Candidate
open Std
open Formula (bare bareSource mutate mutateTyped HasType)

variable {p rate : Double} {features : FeatureSource} {grammar : Grammar}
variable {points : List DecisionPoint} {c : Candidate} {s t : Unit} {random rest : Random}

/-- One entry for each of the points and no other, all of them typed. -/
structure Covers (points : List DecisionPoint) (c : Candidate) : Prop where
  points : c.entries.map Prod.fst = points
  typed : ∀ entry ∈ c.entries, Typed entry

instance : Decidable (c.Covers points) :=
  decidable_of_iff (c.entries.map Prod.fst = points ∧ ∀ entry ∈ c.entries, Typed entry)
    ⟨fun ⟨same, typed⟩ => ⟨same, typed⟩, fun ⟨same, typed⟩ => ⟨same, typed⟩⟩

theorem Covers.sameEntries {d : Candidate} (covers : c.Covers points)
    (same : d.entries = c.entries) : d.Covers points :=
  ⟨same ▸ covers.points, same ▸ covers.typed⟩

theorem ascendingPoints {entries : List Entry} :
    Sorted.Ascending placeOrder entries ↔
      Sorted.Ascending DecisionPoint.order (entries.map Prod.fst) := by
  rw [Sorted.Ascending, Sorted.Ascending, List.pairwise_map]
  rfl

theorem mutatedTyped {point : DecisionPoint} {f g : Formula} {outcome : Except FormulaError Unit}
    (ran : ((Formula.evolve (Strategy.subtreeMutation p) features grammar 0 f).run s).run random =
      (((g, outcome), t), rest)) (typed : Typed (point, f)) : Typed (point, g) := by
  have kept : ((mutate p features grammar 0 f).run random).1.1.HasType f.type :=
    mutateTyped typed.1 random
  rw [mutate, bareSource ran, typed.2] at kept
  exact kept

theorem Visits.typed {chosen : List Nat} {index : Nat} {entries : List Entry}
    {out : Changed (List Entry)}
    (visits : Visits (Formula.evolve (Strategy.subtreeMutation p) features grammar 0) chosen index
      entries s random out t rest) (typed : ∀ entry ∈ entries, Typed entry) :
    ∀ entry ∈ out.1, Typed entry := by
  induction visits with
  | done index s random => exact typed
  | passed apart later ih =>
    obtain ⟨here, others⟩ := List.forall_mem_cons.mp typed
    exact List.forall_mem_cons.mpr ⟨here, ih others⟩
  | refused among ran =>
    obtain ⟨here, others⟩ := List.forall_mem_cons.mp typed
    exact List.forall_mem_cons.mpr ⟨mutatedTyped ran here, others⟩
  | changed among ran later ih =>
    obtain ⟨here, others⟩ := List.forall_mem_cons.mp typed
    exact List.forall_mem_cons.mpr ⟨(mutatedTyped ran here).simplified, ih others⟩

theorem evolvePoints (p rate : Double) (features : FeatureSource) (grammar : Grammar)
    (c : Candidate) (random : Random) :
    ((bare (c.evolve (Strategy.subtreeMutation p) features grammar rate)).run
      random).1.1.entries.map Prod.fst = c.entries.map Prod.fst := by
  rcases evolveCases c random with
    ⟨_, same⟩ | ⟨chosen, moved, entries, outcome, last, _, ran, same⟩
  · rw [same]
  · rw [same]
    cases outcome <;> exact (roundSource ran).points

theorem evolveTyped (p rate : Double) (features : FeatureSource) (grammar : Grammar)
    (typed : ∀ entry ∈ c.entries, Typed entry) (random : Random) :
    ∀ entry ∈ ((bare (c.evolve (Strategy.subtreeMutation p) features grammar rate)).run
      random).1.1.entries, Typed entry := by
  rcases evolveCases c random with
    ⟨_, same⟩ | ⟨chosen, moved, entries, outcome, last, _, ran, same⟩
  · rw [same]
    exact typed
  · rw [same]
    cases outcome <;> exact (roundSource ran).typed typed

/-- In name order, and with none but typed entries of these points. -/
structure Within (points : List DecisionPoint) (c : Candidate) : Prop where
  ascending : Sorted.Ascending placeOrder c.entries
  active : ∀ entry ∈ c.entries, entry.1 ∈ points
  typed : ∀ entry ∈ c.entries, Typed entry

theorem activePoint {entry : Entry} (active : isActive points entry) : entry.1 ∈ points := by
  rw [isActive] at active
  split at active
  · rename_i point found
    have named : point.name = entry.1.name := by simpa using List.find?_some found
    have typed : point.type = entry.1.type := eq_of_beq (Bool.and_eq_true_iff.mp active).1
    have same : point = entry.1 := DecisionPoint.mk.injEq .. ▸ ⟨named, typed⟩
    exact same ▸ List.mem_of_find?_eq_some found
  · contradiction

theorem retainWithin (wellFormed : c.WellFormed) : (c.retain points).1.Within points := by
  refine ⟨wellFormed.ascending.filter _, fun entry mem => ?_, fun entry mem => ?_⟩
  · exact activePoint (List.mem_filter.mp mem).2
  · exact wellFormed.typed entry (List.mem_filter.mp mem).1

theorem Within.evolve (within : c.Within points) (random : Random) :
    ((bare (c.evolve (Strategy.subtreeMutation p) features grammar rate)).run
      random).1.1.Within points := by
  have same := evolvePoints p rate features grammar c random
  refine ⟨?_, fun entry mem => ?_, evolveTyped p rate features grammar within.typed random⟩
  · rw [ascendingPoints, same, ← ascendingPoints]
    exact within.ascending
  · have point := List.mem_map_of_mem (f := Prod.fst) mem
    rw [same] at point
    obtain ⟨old, inside, equal⟩ := List.mem_map.mp point
    exact equal ▸ within.active old inside

/-- Where all entries are active, filling leads to one entry for each of the points. -/
theorem Fills.placed {added n : Nat} {filled : Candidate}
    (fills : Fills features grammar points c added random (filled, .ok n) rest)
    (ordered : Sorted.Ascending DecisionPoint.order points)
    (ascending : Sorted.Ascending placeOrder c.entries)
    (active : ∀ entry ∈ c.entries, entry.1 ∈ points) : filled.entries.map Prod.fst = points := by
  have inside : ∀ entry ∈ filled.entries, entry.1 ∈ points := by
    intro entry mem
    rcases fills.source entry mem with old | fresh
    · exact active entry old
    · exact fresh.1
  refine Sorted.ascendingUnique (ascendingPoints.mp (fills.ascending ascending)) ordered
    fun point => ⟨fun mem => ?_, fun mem => ?_⟩
  · obtain ⟨entry, place, rfl⟩ := List.mem_map.mp mem
    exact inside entry place
  · obtain ⟨entry, place, named⟩ := getSome.mp (fills.complete point mem)
    have same : entry.1 = point := Sorted.ascendingDistinct ordered (inside entry place) mem (by
      simp [DecisionPoint.order, named])
    exact same ▸ List.mem_map_of_mem place

theorem Fills.typed {added : Nat} {out : Candidate × Except FormulaError Nat}
    (fills : Fills features grammar points c added random out rest)
    (typed : ∀ entry ∈ c.entries, Typed entry) : ∀ entry ∈ out.1.entries, Typed entry := by
  intro entry mem
  rcases fills.source entry mem with old | ⟨_, f, before, after, same, drawn⟩
  · exact typed entry old
  · rw [Typed, same]
    exact (Formula.generateTyped drawn).simplified

/-- A candidate whose entries are active covers the active points once it is filled. -/
theorem generateMissingCovers {n : Nat} {filled : Candidate}
    (ascending : Sorted.Ascending DecisionPoint.order points) (within : c.Within points)
    (ran : (c.generateMissing features grammar points).run random = ((filled, .ok n), rest)) :
    filled.Covers points :=
  ⟨(fillMissingSource ran).placed ascending within.ascending within.active,
    (fillMissingSource ran).typed within.typed⟩

/-! A candidate with one entry for each of the active points is left as it is. -/

theorem retainFull (ascending : Sorted.Ascending DecisionPoint.order points)
    (same : c.entries.map Prod.fst = points)
    (typed : ∀ entry ∈ c.entries, entry.2.type = entry.1.type) : c.retain points = (c, 0) := by
  have active : ∀ entry ∈ c.entries, isActive points entry := by
    intro entry mem
    have point : entry.1 ∈ points := same ▸ List.mem_map_of_mem mem
    rw [isActive, DecisionPoint.findActive ascending point]
    simp [typed entry mem]
  rw [retain, List.filter_eq_self.mpr active, Nat.sub_self]

theorem retainCovering (ascending : Sorted.Ascending DecisionPoint.order points)
    (covers : c.Covers points) : (c.retain points).1 = c :=
  congrArg Prod.fst (retainFull ascending covers.points fun entry mem => (covers.typed entry mem).2)

theorem generateMissingFull (same : c.entries.map Prod.fst = points) :
    (c.generateMissing features grammar points).run random = ((c, .ok 0), random) := by
  have known : ∀ point ∈ points, (c.get? point.name).isSome := by
    intro point mem
    rw [← same] at mem
    obtain ⟨entry, inside, rfl⟩ := List.mem_map.mp mem
    exact getSome.mpr ⟨entry, inside, rfl⟩
  exact fillMissingKnown known

end Candidate

end PassTuner

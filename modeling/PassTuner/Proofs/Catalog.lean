import PassTuner.Catalog
import PassTuner.Proofs.Sorted

/-! The decision points of a catalog that passes its checks. -/
namespace PassTuner

theorem DecisionPoint.collectMem {points : List DecisionPoint} {point : DecisionPoint}
    (mem : point ∈ collect points) : point ∈ points := by
  rcases Sorted.insertedMem mem with impossible | inside
  · contradiction
  · exact inside

namespace Catalog

theorem validArguments {seen : List String} {optimizations : List Optimization}
    (valid : validateFrom seen optimizations = .ok ()) :
    ∀ o ∈ optimizations, ∀ slot ∈ o.arguments, slot.type ≠ .string := by
  induction optimizations generalizing seen with
  | nil => exact nofun
  | cons o rest ih =>
    simp only [validateFrom] at valid
    split at valid <;> try contradiction
    split at valid <;> try contradiction
    split at valid <;> try contradiction
    rename_i none
    refine List.forall_mem_cons.mpr ⟨fun slot mem => ?_, ih valid⟩
    simpa using List.find?_eq_none.mp none slot mem

theorem pointsDrawable {catalog : Catalog} (valid : catalog.validate = .ok ())
    (parameterized : Bool) :
    ∀ point ∈ catalog.decisionPoints parameterized, point.type ≠ .string := by
  intro point mem
  obtain ⟨o, listed, inside⟩ := List.mem_flatMap.mp (DecisionPoint.collectMem mem)
  rcases List.mem_cons.mp inside with rfl | argument
  · exact nofun
  · split at argument
    · obtain ⟨index, bound, rfl⟩ := List.mem_mapIdx.mp argument
      exact validArguments valid o listed _ (List.getElem_mem bound)
    · contradiction

end Catalog

end PassTuner

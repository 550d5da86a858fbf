import PassTuner.Knowledge.Basic
import PassTuner.Proofs.Order
import PassTuner.Proofs.Sorted
import PassTuner.Ranking.Basic

/-! The first of a ranking and the best known candidate: no other has a higher fitness or score.

They are first in the total order, and what is in total order is in numeric order, too. -/
namespace PassTuner
open Std

theorem Double.numericOfTotal {x y : Double} (le : (x.totalCompare y).isLE) :
    x.numericKey ≤ y.numericKey := by
  have keys : x.totalKey ≤ y.totalKey := Int.isLE_compare.mp le
  rw [totalKey, totalKey] at keys
  rw [numericKey, numericKey]
  generalize x.negative = left at keys ⊢
  generalize y.negative = right at keys ⊢
  cases left <;> cases right <;>
    simp only [↓reduceIte, Bool.false_eq_true] at keys ⊢ <;> omega

theorem Double.leFinite {x y : Double} (left : x.isFinite) (right : y.isFinite) :
    x.le y ↔ x.numericKey ≤ y.numericKey := by
  have numbers : (x.isNaN || y.isNaN) = false := by
    simp only [isFinite, isNaN, decide_eq_true_eq, Bool.or_eq_false_iff, decide_eq_false_iff_not]
      at left right ⊢
    omega
  rw [le, compare?, numbers, ← Int.isLE_compare]
  cases compare x.numericKey y.numericKey <;> simp

/-- Descending by one key. -/
def descending {α : Type} (key : α → Double) (a b : α) : Ordering := (key b).totalCompare (key a)

instance {α : Type} (key : α → Double) : TransCmp (descending key) :=
  have ascending : TransCmp (compareOn fun a => (key a).totalKey) := inferInstance
  ascending.opposite

instance : TransCmp Evaluation.order :=
  have : TransCmp fun a b : Evaluation => a.candidate.order b.candidate :=
    Chain.transCmp (fun _ _ => OrientedCmp.eq_swap) fun _ _ _ => .ofCmp Candidate.order _ _ _
  inferInstanceAs (TransCmp (compareLex (descending Evaluation.fitness)
    fun a b => a.candidate.order b.candidate))

instance : TransCmp KnowledgeBase.scoreOrder :=
  inferInstanceAs (TransCmp (compareLex (descending Candidate.score) Candidate.order))

theorem Ranking.bestFirst {evaluations : List Evaluation} {best : Evaluation}
    (first : (Ranking.ofList evaluations).best? = some best) :
    best ∈ evaluations ∧ ∀ e ∈ evaluations, (e.fitness.totalCompare best.fitness).isLE := by
  obtain ⟨rest, sorted⟩ := List.head?_eq_some_iff.mp first
  refine ⟨Sorted.sortMem.mp (sorted ▸ List.mem_cons_self), fun e mem => ?_⟩
  have before : (best.order e).isLE := Sorted.sortFirst sorted mem
  exact Ordering.isLE_left_of_isLE_then before

theorem Ranking.mem {evaluations : List Evaluation} {e : Evaluation} :
    e ∈ (Ranking.ofList evaluations).entries ↔ e ∈ evaluations :=
  Sorted.sortMem

theorem KnowledgeBase.rankedFirst {k : KnowledgeBase} {best : Candidate} {others : List Candidate}
    (ranked : k.ranked = best :: others) :
    best ∈ k.candidates ∧ ∀ c ∈ k.candidates, (c.score.totalCompare best.score).isLE := by
  refine ⟨Sorted.sortMem.mp (ranked ▸ List.mem_cons_self), fun c mem => ?_⟩
  have before : (scoreOrder best c).isLE := Sorted.sortFirst ranked mem
  exact Ordering.isLE_left_of_isLE_then before

end PassTuner

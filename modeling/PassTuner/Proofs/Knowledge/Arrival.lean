import PassTuner.Proofs.Candidate.Order
import PassTuner.Proofs.Knowledge.Accounting
import PassTuner.Proofs.Ranking
import PassTuner.Proofs.Sorted.Stable

/-! Recording a generation, in whatever order its evaluations came in.

A running mean depends on the order of its values, so the order in which evaluations are recorded
matters. Ranking fixes it as far as it matters: evaluations that rank alike have the same fitness
and the same entries, and nothing else of an evaluation is recorded. -/
namespace PassTuner
open Std

/-- Every formula has the type of its point. -/
def Evaluation.Typed (e : Evaluation) : Prop :=
  ∀ entry ∈ e.candidate.entries, entry.2.type = entry.1.type

instance (e : Evaluation) : Decidable e.Typed :=
  inferInstanceAs (Decidable (∀ entry ∈ e.candidate.entries, _))

namespace KnowledgeBase

/-- Of a candidate that is recorded only its entries matter. -/
theorem recordEntries (k : KnowledgeBase) {c d : Candidate} (same : c.entries = d.entries)
    (fitness : Double) : k.record c fitness = k.record d fitness := by
  have unscored : c.unscored = d.unscored := by simp only [Candidate.unscored, same]
  have found : k.find? c = k.find? d := findAlike k (Candidate.orderEntries same)
  simp only [record, found, unscored]

/-- What two evaluations must share to leave the same behind when they are recorded. -/
def Interchangeable (a b : Evaluation) : Prop :=
  a.candidate.entries = b.candidate.entries ∧ a.fitness = b.fitness

theorem recordAllPlaces {evaluations others : List Evaluation}
    (same : List.Forall₂ Interchangeable evaluations others) (k : KnowledgeBase) :
    k.recordAll evaluations = k.recordAll others := by
  induction same generalizing k with
  | nil => rfl
  | cons here later ih =>
    obtain ⟨entries, fitness⟩ := here
    simp only [recordAll, List.foldl_cons] at ih ⊢
    rw [recordEntries k entries, fitness]
    exact ih _

theorem rankAlike {a b : Evaluation} (left : a.Typed) (right : b.Typed) (same : a.order b = .eq) :
    Interchangeable a b := by
  obtain ⟨fitness, candidates⟩ := Ordering.then_eq_eq.mp same
  exact ⟨Candidate.entriesSame left right candidates, (Double.totalCompareEq.mp fitness).symm⟩

theorem recordRanked (k : KnowledgeBase) {evaluations others : List Evaluation}
    (typed : ∀ e ∈ evaluations, e.Typed) (arrived : others.Perm evaluations) :
    k.recordAll (Ranking.ofList others).entries =
      k.recordAll (Ranking.ofList evaluations).entries := by
  have places : List.Forall₂ (fun a b => Evaluation.order a b = .eq)
      (Ranking.ofList others).entries (Ranking.ofList evaluations).entries :=
    Sorted.sortPlaces arrived
  have left : ∀ e ∈ (Ranking.ofList others).entries, e.Typed :=
    fun e mem => typed e (arrived.mem_iff.mp (Sorted.sortMem.mp mem))
  have right : ∀ e ∈ (Ranking.ofList evaluations).entries, e.Typed :=
    fun e mem => typed e (Sorted.sortMem.mp mem)
  refine recordAllPlaces (List.forall₂_iff_zip.mpr ⟨places.length_eq, fun pair => ?_⟩) k
  obtain ⟨before, after⟩ := List.of_mem_zip pair
  exact rankAlike (left _ before) (right _ after) ((List.forall₂_iff_zip.mp places).2 pair)

/-- One candidate measured twice, with different results, and failed once with the same fitness. -/
def noisy : List Evaluation :=
  let once : Candidate := ⟨[(⟨"dce", .bool⟩, .literal (.bool true))], .zero, 0⟩
  let known : Candidate := { once with score := .one, count := 1 }
  [⟨once, .one, .measured .two⟩, ⟨known, .two, .measured .one⟩, ⟨once, .two, .failed "stopped"⟩]

theorem recordRankedNoisy : (∀ e ∈ noisy, e.Typed) ∧ noisy.reverse.Perm noisy ∧
    KnowledgeBase.empty.recordAll (Ranking.ofList noisy.reverse).entries =
      KnowledgeBase.empty.recordAll (Ranking.ofList noisy).entries :=
  have typed : ∀ e ∈ noisy, e.Typed := by decide
  ⟨typed, noisy.reverse_perm, recordRanked .empty typed noisy.reverse_perm⟩

end KnowledgeBase

end PassTuner

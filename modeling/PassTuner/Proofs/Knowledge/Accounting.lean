import PassTuner.Proofs.Order
import PassTuner.Proofs.Sorted
import PassTuner.Search.Generation

/-! What recording does to the standing of a candidate.

A standing is the score and the count that are stored for a content. Recording takes a finite
fitness into the standing of the candidate it was observed for and leaves every other standing
alone, whatever score and count the recorded copy itself carries. -/
namespace PassTuner
open Std

namespace Candidate

theorem orderOfEntries {a b : Candidate} (same : a.entries = b.entries) (c : Candidate) :
    c.order a = c.order b := by
  simp only [order, same]

end Candidate

namespace KnowledgeBase

/-- Score and count that are stored for a content; nothing observed if it is not stored. -/
def standing (k : KnowledgeBase) (c : Candidate) : Double × Nat :=
  match k.find? c with
  | some stored => (stored.score, stored.count)
  | none => (.zero, 0)

/-- A standing with one more fitness value taken in. -/
def takeIn (standing : Double × Nat) (fitness : Double) : Double × Nat :=
  (Candidate.runningMean standing.1 standing.2 fitness, standing.2 + 1)

theorem takeInCount (standing : Double × Nat) (values : List Double) :
    (values.foldl takeIn standing).2 = standing.2 + values.length := by
  induction values generalizing standing with
  | nil => rfl
  | cons fitness rest ih =>
    rw [List.foldl_cons, ih, takeIn, List.length_cons]
    omega

theorem findSame {k : KnowledgeBase} {c stored : Candidate} (found : k.find? c = some stored) :
    c.order stored = .eq := by
  simpa using List.find?_some found

theorem foundStanding {k : KnowledgeBase} {c stored : Candidate}
    (found : k.find? c = some stored) : k.standing c = (stored.score, stored.count) := by
  rw [standing, found]

theorem findAlike (k : KnowledgeBase) {c d : Candidate} (same : d.order c = .eq) :
    k.find? d = k.find? c := by
  simp only [find?, TransCmp.congr_left same]

theorem updateFind (k : KnowledgeBase) (c d : Candidate) :
    (k.update c).find? d = if d.order c = .eq then some c else k.find? d :=
  Sorted.upsertFind c d k.candidates

theorem recordedSame (k : KnowledgeBase) (c d : Candidate) (fitness : Double) :
    d.order (((k.find? c).getD c.unscored).observe fitness) = d.order c := by
  cases found : k.find? c with
  | none => exact Candidate.orderOfEntries (by rfl) d
  | some stored =>
    have alike : d.order stored = d.order c := (TransCmp.congr_right (findSame found)).symm
    exact (Candidate.orderOfEntries (by rfl) d).trans alike

theorem recordFind (k : KnowledgeBase) (c d : Candidate) {fitness : Double}
    (finite : fitness.isFinite) :
    (k.record c fitness).1.find? d =
      if d.order c = .eq then some (((k.find? c).getD c.unscored).observe fitness)
      else k.find? d := by
  simp only [record, finite, ↓reduceIte, updateFind, recordedSame]

theorem recordStanding (k : KnowledgeBase) (c d : Candidate) {fitness : Double}
    (finite : fitness.isFinite) :
    (k.record c fitness).1.standing d =
      if d.order c = .eq then takeIn (k.standing d) fitness else k.standing d := by
  rw [standing, recordFind k c d finite]
  by_cases same : d.order c = .eq
  · rw [if_pos same, if_pos same, standing, findAlike k same]
    cases k.find? c <;> rfl
  · rw [if_neg same, if_neg same, standing]

theorem recordHas (k : KnowledgeBase) (c d : Candidate) {fitness : Double}
    (finite : fitness.isFinite) :
    (k.record c fitness).1.has d ↔ k.has d ∨ d.order c = .eq := by
  rw [has, recordFind k c d finite]
  by_cases same : d.order c = .eq
  · simp [same]
  · simp [same, has]

/-- The fitness values that evaluations give to a content, in their order. -/
def fitnessOf (c : Candidate) (evaluations : List Evaluation) : List Double :=
  (evaluations.filter fun e => c.order e.candidate == .eq).map Evaluation.fitness

theorem fitnessOfCons (c : Candidate) (e : Evaluation) (rest : List Evaluation) :
    fitnessOf c (e :: rest) =
      if c.order e.candidate = .eq then e.fitness :: fitnessOf c rest else fitnessOf c rest := by
  by_cases same : c.order e.candidate = .eq <;> simp [fitnessOf, same]

theorem fitnessOfAppend (c : Candidate) (before after : List Evaluation) :
    fitnessOf c (before ++ after) = fitnessOf c before ++ fitnessOf c after := by
  rw [fitnessOf, List.filter_append, List.map_append, fitnessOf, fitnessOf]

theorem fitnessOfPerm (c : Candidate) {evaluations others : List Evaluation}
    (same : evaluations.Perm others) : (fitnessOf c evaluations).Perm (fitnessOf c others) :=
  (same.filter _).map _

theorem fitnessOfAlike {c d : Candidate} (same : c.order d = .eq) (evaluations : List Evaluation) :
    fitnessOf c evaluations = fitnessOf d evaluations := by
  simp only [fitnessOf, TransCmp.congr_left same]

theorem fitnessOfSelf {evaluations : List Evaluation} {e : Evaluation} (mem : e ∈ evaluations) :
    e.fitness ∈ fitnessOf e.candidate evaluations := by
  have self : e.candidate.order e.candidate = .eq := ReflCmp.compare_self
  exact List.mem_map_of_mem (List.mem_filter.mpr ⟨mem, beq_of_eq self⟩)

theorem recordAllStanding (k : KnowledgeBase) (c : Candidate) {evaluations : List Evaluation}
    (finite : ∀ e ∈ evaluations, e.fitness.isFinite) :
    (k.recordAll evaluations).standing c =
      (fitnessOf c evaluations).foldl takeIn (k.standing c) := by
  induction evaluations generalizing k with
  | nil => rfl
  | cons e rest ih =>
    obtain ⟨here, later⟩ := List.forall_mem_cons.mp finite
    -- the first evaluation moves the standing that the others start from
    refine (ih (k.record e.candidate e.fitness).1 later).trans ?_
    rw [recordStanding k e.candidate c here, fitnessOfCons]
    by_cases same : c.order e.candidate = .eq
    · rw [if_pos same, if_pos same, List.foldl_cons]
    · rw [if_neg same, if_neg same]

theorem recordAllFind (k : KnowledgeBase) (c : Candidate) {evaluations : List Evaluation}
    (finite : ∀ e ∈ evaluations, e.fitness.isFinite) (others : fitnessOf c evaluations = []) :
    (k.recordAll evaluations).find? c = k.find? c := by
  induction evaluations generalizing k with
  | nil => rfl
  | cons e rest ih =>
    obtain ⟨here, later⟩ := List.forall_mem_cons.mp finite
    rw [fitnessOfCons] at others
    split at others <;> try contradiction
    rename_i apart
    refine (ih (k.record e.candidate e.fitness).1 later others).trans ?_
    rw [recordFind k e.candidate c here, if_neg apart]

theorem recordAllHas (k : KnowledgeBase) (c : Candidate) {evaluations : List Evaluation}
    (finite : ∀ e ∈ evaluations, e.fitness.isFinite) :
    (k.recordAll evaluations).has c ↔ k.has c ∨ ∃ e ∈ evaluations, c.order e.candidate = .eq := by
  induction evaluations generalizing k with
  | nil => simp [recordAll]
  | cons e rest ih =>
    obtain ⟨here, later⟩ := List.forall_mem_cons.mp finite
    refine (ih (k.record e.candidate e.fitness).1 later).trans ?_
    simp only [recordHas k e.candidate c here, List.mem_cons, exists_eq_or_imp, or_assoc]

theorem recordAscending {k : KnowledgeBase}
    (ascending : Sorted.Ascending Candidate.order k.candidates)
    (c : Candidate) (fitness : Double) :
    Sorted.Ascending Candidate.order (k.record c fitness).1.candidates := by
  simp only [record]
  split
  · exact Sorted.upsertAscending ascending _
  · exact ascending

theorem recordAllAscending {k : KnowledgeBase}
    (ascending : Sorted.Ascending Candidate.order k.candidates) (evaluations : List Evaluation) :
    Sorted.Ascending Candidate.order (k.recordAll evaluations).candidates := by
  induction evaluations generalizing k with
  | nil => exact ascending
  | cons e rest ih => exact ih (recordAscending ascending e.candidate e.fitness)

theorem recordSize (k : KnowledgeBase) (c : Candidate) (fitness : Double) :
    k.size ≤ (k.record c fitness).1.size := by
  simp only [record]
  split
  · exact Sorted.upsertLength _ _
  · exact Nat.le_refl _

theorem recordAllSize (k : KnowledgeBase) (evaluations : List Evaluation) :
    k.size ≤ (k.recordAll evaluations).size := by
  induction evaluations generalizing k with
  | nil => exact Nat.le_refl _
  | cons e rest ih => exact Nat.le_trans (recordSize k e.candidate e.fitness) (ih _)

theorem memberFound {k : KnowledgeBase}
    (ascending : Sorted.Ascending Candidate.order k.candidates)
    {c : Candidate} (mem : c ∈ k.candidates) : k.find? c = some c := by
  have stored : k.has c := by
    have self : c.order c = .eq := ReflCmp.compare_self
    exact List.find?_isSome.mpr ⟨c, mem, beq_of_eq self⟩
  obtain ⟨found, find⟩ := Option.isSome_iff_exists.mp stored
  have same : c = found :=
    Sorted.ascendingDistinct ascending mem (List.mem_of_find?_eq_some find) (findSame find)
  rw [find, same]

theorem memberStanding {k : KnowledgeBase}
    (ascending : Sorted.Ascending Candidate.order k.candidates)
    {c : Candidate} (mem : c ∈ k.candidates) : k.standing c = (c.score, c.count) := by
  rw [standing, memberFound ascending mem]

theorem recordSource {k : KnowledgeBase} {c stored : Candidate} {fitness : Double}
    (mem : stored ∈ (k.record c fitness).1.candidates) :
    (∃ old ∈ k.candidates, stored.entries = old.entries) ∨ stored.entries = c.entries := by
  simp only [record] at mem
  split at mem
  · rcases Sorted.upsertMem mem with rfl | old
    · cases found : k.find? c with
      | none => exact .inr rfl
      | some known => exact .inl ⟨known, List.mem_of_find?_eq_some found, rfl⟩
    · exact .inl ⟨stored, old, rfl⟩
  · exact .inl ⟨stored, mem, rfl⟩

theorem recordAllSource {k : KnowledgeBase} {stored : Candidate} {evaluations : List Evaluation}
    (mem : stored ∈ (k.recordAll evaluations).candidates) :
    (∃ old ∈ k.candidates, stored.entries = old.entries) ∨
      ∃ e ∈ evaluations, stored.entries = e.candidate.entries := by
  induction evaluations generalizing k with
  | nil => exact .inl ⟨stored, mem, rfl⟩
  | cons e rest ih =>
    rcases ih mem with ⟨old, inside, same⟩ | ⟨later, inside, same⟩
    · rcases recordSource inside with ⟨first, known, equal⟩ | equal
      · exact .inl ⟨first, known, same.trans equal⟩
      · exact .inr ⟨e, List.mem_cons_self, same.trans equal⟩
    · exact .inr ⟨later, List.mem_cons_of_mem _ inside, same⟩

/-- The standing of a content moves by the evaluations of it alone, each taken in once. -/
structure Accounted (before after : KnowledgeBase) (evaluations : List Evaluation)
    (c : Candidate) : Prop where
  count : (after.standing c).2 = (before.standing c).2 + (fitnessOf c evaluations).length
  score : (after.standing c).1 = ((fitnessOf c evaluations).foldl takeIn (before.standing c)).1
  untouched : fitnessOf c evaluations = [] → after.find? c = before.find? c
  kept : after.has c ↔ before.has c ∨ ∃ e ∈ evaluations, c.order e.candidate = .eq

theorem recordAllAccounted (k : KnowledgeBase) (c : Candidate) {evaluations : List Evaluation}
    (finite : ∀ e ∈ evaluations, e.fitness.isFinite) :
    Accounted k (k.recordAll evaluations) evaluations c := by
  have standing := recordAllStanding k c finite
  refine ⟨?_, congrArg Prod.fst standing, recordAllFind k c finite, recordAllHas k c finite⟩
  rw [standing, takeInCount]

end KnowledgeBase

end PassTuner

import Mathlib.Data.List.Dedup
import PassTuner.Proofs.Knowledge.Accounting

/-! A knowledge base as a map from contents to standings.

Requests come in any order. What a base tells of a content afterwards is what it was last given for
it, with the finite fitness values recorded since then taken in one by one; nothing of it depends on
the requests for other contents. A base that has `Taken` requests says so of every content. -/
namespace PassTuner.KnowledgeBase
open Std

/-- What a base can be asked to take. -/
inductive Request where
  | update (c : Candidate)
  | record (c : Candidate) (fitness : Double)
  deriving DecidableEq, Repr

namespace Request

/-- The candidate whose content is stored from then on, if any. -/
def stores : Request → Option Candidate
  | .update c => some c
  | .record c fitness => if fitness.isFinite then some c else none

/-- Whether the standing of a content is replaced. -/
def Replaces (d : Candidate) : Request → Prop
  | .update c => d.order c = .eq
  | .record _ _ => False

/-- The fitness value that is taken into the standing of a content, if any. -/
def observes (d : Candidate) : Request → Option Double
  | .update _ => none
  | .record c fitness => if d.order c = .eq ∧ fitness.isFinite then some fitness else none

end Request

def handle (k : KnowledgeBase) : Request → KnowledgeBase
  | .update c => k.update c
  | .record c fitness => (k.record c fitness).1

def handleAll (k : KnowledgeBase) (requests : List Request) : KnowledgeBase :=
  requests.foldl handle k

/-- The candidates that requests have stored, as often as they have. -/
def storedBy (requests : List Request) : List Candidate := requests.filterMap Request.stores

/-- The fitness values that requests have taken in for a content, in their order. -/
def observedBy (d : Candidate) (requests : List Request) : List Double :=
  requests.filterMap (Request.observes d)

/-- What a base tells after requests that began with none stored. -/
structure Taken (k : KnowledgeBase) (requests : List Request) : Prop where
  size : k.size = ((storedBy requests).map Candidate.content).dedup.length
  known (d : Candidate) : k.has d ↔ ∃ c ∈ storedBy requests, d.order c = .eq
  found (d : Candidate) : (∃ stored, k.find? d = some stored) ↔
    ∃ c ∈ storedBy requests, d.order c = .eq
  alike {d stored : Candidate} (found : k.find? d = some stored) : d.order stored = .eq
  replaced {before later : List Request} {c d : Candidate}
    (split : requests = before ++ .update c :: later) (same : d.order c = .eq)
    (last : ∀ r ∈ later, ¬r.Replaces d) :
    ∃ stored, k.find? d = some stored ∧
      (stored.score, stored.count) = (observedBy d later).foldl takeIn (c.score, c.count)
  observed {d stored : Candidate} (never : ∀ r ∈ requests, ¬r.Replaces d)
    (found : k.find? d = some stored) :
    (stored.score, stored.count) = (observedBy d requests).foldl takeIn (.zero, 0)
  counted (i : Nat) : (∃ stored, k.get? i = some stored) ↔ i < k.size
  ascending {i j : Nat} {c d : Candidate} (before : i < j) (left : k.get? i = some c)
    (right : k.get? j = some d) : c.order d = .lt
  listed (c : Candidate) : (∃ i, k.get? i = some c) ↔ k.find? c = some c
  ignored (c : Candidate) {fitness : Double} (infinite : ¬fitness.isFinite) :
    (k.record c fitness).1 = k
  answered (c : Candidate) (fitness : Double) :
    (k.record c fitness).2 = (k.record c fitness).1.standing c

theorem updateStanding (k : KnowledgeBase) (c d : Candidate) :
    (k.update c).standing d = if d.order c = .eq then (c.score, c.count) else k.standing d := by
  rw [standing, updateFind]
  by_cases same : d.order c = .eq
  · rw [if_pos same, if_pos same]
  · rw [if_neg same, if_neg same, standing]

theorem updateHas (k : KnowledgeBase) (c d : Candidate) :
    (k.update c).has d ↔ k.has d ∨ d.order c = .eq := by
  rw [has, updateFind]
  by_cases same : d.order c = .eq
  · simp [same]
  · simp [same, has]

theorem recordIgnored (k : KnowledgeBase) (c : Candidate) {fitness : Double}
    (infinite : ¬fitness.isFinite) : (k.record c fitness).1 = k := by
  simp only [record, infinite, Bool.false_eq_true, ↓reduceIte]

/-- Recording answers with what is stored afterwards. -/
theorem recordAnswer (k : KnowledgeBase) (c : Candidate) (fitness : Double) :
    (k.record c fitness).2 = (k.record c fitness).1.standing c := by
  by_cases finite : fitness.isFinite
  · have self : c.order c = .eq := ReflCmp.compare_self
    rw [standing, recordFind k c c finite, if_pos self]
    simp only [record, finite, ↓reduceIte]
  · rw [recordIgnored k c finite, standing]
    cases found : k.find? c <;> simp only [record, found, finite, Bool.false_eq_true, ↓reduceIte]

/-! One request. -/

theorem handleHas (k : KnowledgeBase) (r : Request) (d : Candidate) :
    (k.handle r).has d ↔ k.has d ∨ ∃ c, r.stores = some c ∧ d.order c = .eq := by
  cases r with
  | update c => simp [handle, updateHas, Request.stores]
  | record c fitness =>
    by_cases finite : fitness.isFinite
    · simp [handle, recordHas k c d finite, Request.stores, finite]
    · simp [handle, recordIgnored k c finite, Request.stores, finite]

theorem handleStanding (k : KnowledgeBase) {r : Request} {d : Candidate} (kept : ¬r.Replaces d) :
    (k.handle r).standing d = (r.observes d).toList.foldl takeIn (k.standing d) := by
  cases r with
  | update c => exact (updateStanding k c d).trans (if_neg kept)
  | record c fitness =>
    by_cases finite : fitness.isFinite
    · by_cases same : d.order c = .eq <;>
        simp [handle, Request.observes, recordStanding k c d finite, same, finite]
    · simp [handle, Request.observes, recordIgnored k c finite, finite]

theorem handleAscending {k : KnowledgeBase}
    (ascending : Sorted.Ascending Candidate.order k.candidates) (r : Request) :
    Sorted.Ascending Candidate.order (k.handle r).candidates := by
  cases r with
  | update c => exact Sorted.upsertAscending ascending c
  | record c fitness => exact recordAscending ascending c fitness

/-! Any number of requests. -/

theorem handleAllHas (k : KnowledgeBase) (requests : List Request) (d : Candidate) :
    (k.handleAll requests).has d ↔ k.has d ∨ ∃ c ∈ storedBy requests, d.order c = .eq := by
  induction requests generalizing k with
  | nil => simp [handleAll, storedBy]
  | cons r rest ih =>
    refine (ih (k.handle r)).trans ?_
    rw [handleHas, storedBy, storedBy, or_assoc]
    cases stores : r.stores <;> simp [stores]

theorem handleAllStanding (k : KnowledgeBase) {requests : List Request} {d : Candidate}
    (kept : ∀ r ∈ requests, ¬r.Replaces d) :
    (k.handleAll requests).standing d = (observedBy d requests).foldl takeIn (k.standing d) := by
  induction requests generalizing k with
  | nil => rfl
  | cons r rest ih =>
    obtain ⟨here, later⟩ := List.forall_mem_cons.mp kept
    refine (ih (k.handle r) later).trans ?_
    rw [handleStanding k here, observedBy, observedBy]
    cases observes : r.observes d <;> simp [observes]

theorem handleAllAscending {k : KnowledgeBase}
    (ascending : Sorted.Ascending Candidate.order k.candidates) (requests : List Request) :
    Sorted.Ascending Candidate.order (k.handleAll requests).candidates := by
  induction requests generalizing k with
  | nil => exact ascending
  | cons r rest ih => exact ih (handleAscending ascending r)

/-! What the order of a base says of its candidates. -/

theorem hasContent (k : KnowledgeBase) (d : Candidate) :
    k.has d ↔ d.content ∈ k.candidates.map Candidate.content := by
  simp only [has, find?, List.find?_isSome, List.mem_map, beq_iff_eq, Candidate.orderSame,
    eq_comm (a := d.content)]

theorem emptyHas (requests : List Request) (d : Candidate) :
    (empty.handleAll requests).has d ↔ ∃ c ∈ storedBy requests, d.order c = .eq :=
  (handleAllHas empty requests d).trans (or_iff_right nofun)

theorem contentsDistinct {k : KnowledgeBase}
    (ascending : Sorted.Ascending Candidate.order k.candidates) :
    (k.candidates.map Candidate.content).Nodup :=
  Sorted.keysDistinct (fun _ _ => Candidate.orderSame.mpr) ascending

/-- No content is stored but by a request, and each that is stored once. -/
theorem sizeStored (requests : List Request) : (empty.handleAll requests).size =
    ((storedBy requests).map Candidate.content).dedup.length := by
  have distinct : ((empty.handleAll requests).candidates.map Candidate.content).Nodup :=
    contentsDistinct (handleAllAscending List.Pairwise.nil requests)
  have same (named : List (String × Formula)) :
      named ∈ (empty.handleAll requests).candidates.map Candidate.content ↔
        named ∈ ((storedBy requests).map Candidate.content).dedup := by
    rw [List.mem_dedup]
    constructor
    · intro mem
      obtain ⟨d, _, rfl⟩ := List.mem_map.mp mem
      obtain ⟨c, stored, alike⟩ := (emptyHas requests d).mp ((hasContent _ d).mpr mem)
      exact List.mem_map.mpr ⟨c, stored, (Candidate.orderSame.mp alike).symm⟩
    · intro mem
      obtain ⟨c, stored, rfl⟩ := List.mem_map.mp mem
      have self : c.order c = .eq := ReflCmp.compare_self
      exact (hasContent _ c).mp ((emptyHas requests c).mpr ⟨c, stored, self⟩)
  have arranged := (List.perm_ext_iff_of_nodup distinct (List.nodup_dedup _)).mpr same
  rw [← arranged.length_eq, List.length_map, size]

/-- What a content was last given stands with what has been observed since. -/
theorem standingReplaced (k : KnowledgeBase) {later : List Request} {c d : Candidate}
    (same : d.order c = .eq) (last : ∀ r ∈ later, ¬r.Replaces d) :
    ∃ stored, ((k.update c).handleAll later).find? d = some stored ∧
      (stored.score, stored.count) = (observedBy d later).foldl takeIn (c.score, c.count) := by
  have known : ((k.update c).handleAll later).has d :=
    (handleAllHas _ later d).mpr (.inl ((updateHas k c d).mpr (.inr same)))
  obtain ⟨stored, found⟩ := Option.isSome_iff_exists.mp known
  refine ⟨stored, found, ?_⟩
  rw [← foundStanding found, handleAllStanding _ last, updateStanding, if_pos same]

theorem requestsTaken (requests : List Request) : (empty.handleAll requests).Taken requests := by
  have ascending : Sorted.Ascending Candidate.order (empty.handleAll requests).candidates :=
    handleAllAscending List.Pairwise.nil requests
  constructor
  case size => exact sizeStored requests
  case known => exact emptyHas requests
  case found =>
    intro d
    rw [← emptyHas requests d]
    exact Option.isSome_iff_exists.symm
  case alike => exact findSame
  case replaced =>
    rintro before later c d rfl same last
    have parted : empty.handleAll (before ++ .update c :: later) =
        ((empty.handleAll before).update c).handleAll later := List.foldl_append
    rw [parted]
    exact standingReplaced _ same last
  case observed =>
    intro d stored never found
    rw [← foundStanding found, handleAllStanding _ never]
    rfl
  case counted =>
    intro i
    refine ⟨fun ⟨_, place⟩ => (List.getElem?_eq_some_iff.mp place).1, fun inside => ?_⟩
    exact ⟨_, List.getElem?_eq_getElem inside⟩
  case ascending =>
    intro i j c d before left right
    obtain ⟨inside, rfl⟩ := List.getElem?_eq_some_iff.mp left
    obtain ⟨inside', rfl⟩ := List.getElem?_eq_some_iff.mp right
    exact List.pairwise_iff_getElem.mp ascending i j inside inside' before
  case listed =>
    intro c
    refine ⟨fun ⟨i, place⟩ => memberFound ascending (List.mem_of_getElem? place), fun found => ?_⟩
    exact List.getElem?_of_mem (List.mem_of_find?_eq_some found)
  case ignored => exact fun c _ => recordIgnored _ c
  case answered => exact recordAnswer _

end PassTuner.KnowledgeBase

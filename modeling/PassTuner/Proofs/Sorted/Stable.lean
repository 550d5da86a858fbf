import Mathlib.Data.List.Forall2
import PassTuner.Proofs.Sorted

/-! Sorting is stable, and what that makes of lists with equals in them.

Elements that compare equal need not be equal. Sorted lists agree place by place as soon as they
agree on each class of equals, and sorting leaves every class in the order in which it came. -/
namespace PassTuner.Sorted
open Std

variable {α : Type} {cmp : α → α → Ordering}

/-- The elements that compare equal to `z`, in their order. -/
def alike (cmp : α → α → Ordering) (z : α) (xs : List α) : List α :=
  xs.filter fun x => cmp z x == .eq

theorem alikeMem {x z : α} {xs : List α} : x ∈ alike cmp z xs ↔ x ∈ xs ∧ cmp z x = .eq := by
  simp [alike]

theorem alikeCons (z x : α) (xs : List α) :
    alike cmp z (x :: xs) = if cmp z x = .eq then x :: alike cmp z xs else alike cmp z xs := by
  simp [alike, List.filter_cons]

theorem alikeAppend (z : α) (xs ys : List α) :
    alike cmp z (xs ++ ys) = alike cmp z xs ++ alike cmp z ys := by
  simp [alike]

theorem alikePartner {R : α → α → Prop} {xs ys : List α} {z : α}
    (same : List.Forall₂ R (alike cmp z xs) (alike cmp z ys)) :
    (∃ x ∈ xs, cmp z x = .eq) ↔ ∃ y ∈ ys, cmp z y = .eq := by
  have lengths := same.length_eq
  simp only [← alikeMem]
  constructor
  · rintro ⟨x, mem⟩
    exact List.exists_mem_of_length_pos (lengths ▸ List.length_pos_of_mem mem)
  · rintro ⟨y, mem⟩
    exact List.exists_mem_of_length_pos (lengths ▸ List.length_pos_of_mem mem)

/-- Sorted lists that agree on each class of equals agree place by place. -/
theorem sortedPlaces [TransCmp cmp] {R : α → α → Prop} {xs ys : List α}
    (left : xs.Pairwise fun x y => (cmp x y).isLE) (right : ys.Pairwise fun x y => (cmp x y).isLE)
    (classes : ∀ z, List.Forall₂ R (alike cmp z xs) (alike cmp z ys)) : List.Forall₂ R xs ys := by
  have self (x : α) : cmp x x = .eq := ReflCmp.compare_self
  induction xs generalizing ys with
  | nil =>
    cases ys with
    | nil => exact .nil
    | cons y ys =>
      obtain ⟨_, mem, _⟩ := (alikePartner (classes y)).mpr ⟨y, List.mem_cons_self, self y⟩
      contradiction
  | cons x xs ih =>
    obtain ⟨y', inside, alikeX⟩ := (alikePartner (classes x)).mp ⟨x, List.mem_cons_self, self x⟩
    cases ys with
    | nil => contradiction
    | cons y ys =>
      obtain ⟨x', among, alikeY⟩ := (alikePartner (classes y)).mpr ⟨y, List.mem_cons_self, self y⟩
      -- each head comes before an element that is equal to the other head
      have below : (cmp x y).isLE := by
        rw [TransCmp.congr_right alikeY]
        exact sortedHead left among
      have above : (cmp y x).isLE := by
        rw [TransCmp.congr_right alikeX]
        exact sortedHead right inside
      have heads : cmp x y = .eq := OrientedCmp.isLE_antisymm below above
      have same (z : α) : cmp z y = cmp z x := (TransCmp.congr_right heads).symm
      have first := classes x
      rw [alikeCons, alikeCons, same, self, if_pos rfl, if_pos rfl] at first
      refine .cons (List.forall₂_cons.mp first).1 (ih (List.pairwise_cons.mp left).2
        (List.pairwise_cons.mp right).2 fun z => ?_)
      have others := classes z
      rw [alikeCons, alikeCons, same] at others
      split at others
      · exact (List.forall₂_cons.mp others).2
      · exact others

/-- Sorting leaves equals in the order in which they came. -/
theorem sortAlike [TransCmp cmp] (z : α) (xs : List α) :
    alike cmp z (sort cmp xs) = alike cmp z xs := by
  have sorted : (alike cmp z xs).Pairwise fun x y => (cmp x y).isLE := by
    refine List.pairwise_of_forall_mem_list fun x left y right => ?_
    have equal : cmp x y = .eq :=
      TransCmp.eq_trans (OrientedCmp.eq_symm (alikeMem.mp left).2) (alikeMem.mp right).2
    rw [equal]
    rfl
  have inside : (alike cmp z xs).Sublist (sort cmp xs) := by
    rw [sortByLE]
    exact List.sublist_mergeSort (isLETrans cmp) (isLETotal cmp) sorted List.filter_sublist
  have kept := inside.filter fun x => cmp z x == .eq
  rw [alike, List.filter_filter, ← alike] at kept
  simp only [Bool.and_self] at kept
  exact (kept.eq_of_length ((sortPerm cmp xs).filter _).length_eq.symm).symm

/-- Sorted permutations of one list differ by equals in the same places. -/
theorem sortPlaces [TransCmp cmp] {xs ys : List α} (same : xs.Perm ys) :
    List.Forall₂ (fun x y => cmp x y = .eq) (sort cmp xs) (sort cmp ys) := by
  refine sortedPlaces (sortSorted xs) (sortSorted ys) fun z => ?_
  rw [sortAlike, sortAlike]
  refine List.forall₂_iff_zip.mpr ⟨(same.filter _).length_eq, fun pair => ?_⟩
  obtain ⟨left, right⟩ := List.of_mem_zip pair
  exact TransCmp.eq_trans (OrientedCmp.eq_symm (alikeMem.mp left).2) (alikeMem.mp right).2

/-- What has been sorted already may be sorted again with more behind it. -/
theorem sortAgain [TransCmp cmp] (xs ys : List α) :
    sort cmp (sort cmp xs ++ ys) = sort cmp (xs ++ ys) := by
  have places : List.Forall₂ (· = ·) (sort cmp (sort cmp xs ++ ys)) (sort cmp (xs ++ ys)) := by
    refine sortedPlaces (sortSorted _) (sortSorted _) fun z => ?_
    have same : alike cmp z (sort cmp xs ++ ys) = alike cmp z (xs ++ ys) := by
      rw [alikeAppend, alikeAppend, sortAlike]
    rw [sortAlike, sortAlike, same, List.forall₂_eq_eq_eq]
  rwa [List.forall₂_eq_eq_eq] at places

end PassTuner.Sorted

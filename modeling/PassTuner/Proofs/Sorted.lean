import Mathlib.Data.List.Sort
import PassTuner.Sorted

/-! What sorted insertion leaves in a list, as far as membership and look-up can tell. -/
namespace PassTuner.Sorted
open Std

variable {α : Type} {cmp : α → α → Ordering}

theorem upsertMem {x y : α} {xs : List α} (mem : y ∈ upsert cmp x xs) : y = x ∨ y ∈ xs := by
  induction xs with
  | nil => exact .inl (List.mem_singleton.mp mem)
  | cons head rest ih =>
    simp only [upsert] at mem
    split at mem
    · exact List.mem_cons.mp mem
    · rcases List.mem_cons.mp mem with same | inside
      · exact .inl same
      · exact .inr (List.mem_cons_of_mem _ inside)
    · rcases List.mem_cons.mp mem with same | inside
      · exact .inr (same ▸ List.mem_cons_self)
      · exact (ih inside).imp_right (List.mem_cons_of_mem _)

theorem upsertAll {good : α → Prop} {x : α} {xs : List α} (here : good x)
    (others : ∀ y ∈ xs, good y) : ∀ y ∈ upsert cmp x xs, good y := by
  intro y mem
  rcases upsertMem mem with rfl | inside
  · exact here
  · exact others y inside

theorem upsertSelf (x : α) (xs : List α) : x ∈ upsert cmp x xs := by
  induction xs with
  | nil => exact List.mem_singleton_self x
  | cons head rest ih =>
    simp only [upsert]
    split
    · exact List.mem_cons_self
    · exact List.mem_cons_self
    · exact List.mem_cons_of_mem _ ih

theorem upsertKeeps {x y : α} {xs : List α} (mem : y ∈ xs) :
    y ∈ upsert cmp x xs ∨ cmp x y = .eq := by
  induction xs with
  | nil => contradiction
  | cons head rest ih =>
    simp only [upsert]
    split
    · exact .inl (List.mem_cons_of_mem _ mem)
    · rename_i same
      rcases List.mem_cons.mp mem with rfl | later
      · exact .inr same
      · exact .inl (List.mem_cons_of_mem _ later)
    · rcases List.mem_cons.mp mem with rfl | later
      · exact .inl List.mem_cons_self
      · exact (ih later).imp_left (List.mem_cons_of_mem _)

theorem upsertLength (x : α) (xs : List α) : xs.length ≤ (upsert cmp x xs).length := by
  induction xs with
  | nil => exact Nat.zero_le _
  | cons head rest ih =>
    simp only [upsert]
    split
    · exact Nat.le_succ _
    · exact Nat.le_refl _
    · exact Nat.succ_le_succ ih

/-- Where no place is taken, something is put in and nothing replaced. -/
theorem upsertFresh {x : α} {xs : List α} (fresh : ∀ y ∈ xs, cmp x y ≠ .eq) :
    (upsert cmp x xs).Perm (x :: xs) := by
  induction xs with
  | nil => exact .refl _
  | cons head rest ih =>
    obtain ⟨apart, others⟩ := List.forall_mem_cons.mp fresh
    simp only [upsert]
    split
    · exact .refl _
    · rename_i same
      exact absurd same apart
    · exact ((ih others).cons head).trans (.swap x head rest)

theorem insertNewMem {x y : α} {xs : List α} (mem : y ∈ insertNew cmp x xs) : y = x ∨ y ∈ xs := by
  induction xs with
  | nil => exact .inl (List.mem_singleton.mp mem)
  | cons head rest ih =>
    simp only [insertNew] at mem
    split at mem
    · exact List.mem_cons.mp mem
    · exact .inr mem
    · rcases List.mem_cons.mp mem with same | inside
      · exact .inr (same ▸ List.mem_cons_self)
      · exact (ih inside).imp_right (List.mem_cons_of_mem _)

theorem insertedMem {y : α} {xs kept : List α}
    (mem : y ∈ xs.foldl (fun kept x => insertNew cmp x kept) kept) : y ∈ kept ∨ y ∈ xs := by
  induction xs generalizing kept with
  | nil => exact .inl mem
  | cons x rest ih =>
    rcases ih mem with inside | later
    · rcases insertNewMem inside with rfl | old
      · exact .inr List.mem_cons_self
      · exact .inl old
    · exact .inr (List.mem_cons_of_mem _ later)

theorem insertNewKeeps {x y : α} {xs : List α} (mem : y ∈ xs) : y ∈ insertNew cmp x xs := by
  induction xs with
  | nil => contradiction
  | cons head rest ih =>
    simp only [insertNew]
    split
    · exact List.mem_cons_of_mem _ mem
    · exact mem
    · rcases List.mem_cons.mp mem with rfl | later
      · exact List.mem_cons_self
      · exact List.mem_cons_of_mem _ (ih later)

theorem insertNewPlace [ReflCmp cmp] (x : α) (xs : List α) :
    ∃ y ∈ insertNew cmp x xs, cmp x y = .eq := by
  induction xs with
  | nil => exact ⟨x, List.mem_singleton_self x, ReflCmp.compare_self⟩
  | cons head rest ih =>
    simp only [insertNew]
    split
    · exact ⟨x, List.mem_cons_self, ReflCmp.compare_self⟩
    · rename_i same
      exact ⟨head, List.mem_cons_self, same⟩
    · obtain ⟨y, inside, same⟩ := ih
      exact ⟨y, List.mem_cons_of_mem _ inside, same⟩

theorem insertedKeeps {y : α} {xs kept : List α} (mem : y ∈ kept) :
    y ∈ xs.foldl (fun kept x => insertNew cmp x kept) kept := by
  induction xs generalizing kept with
  | nil => exact mem
  | cons x rest ih => exact ih (insertNewKeeps mem)

/-- What was to be put in has its place taken, by itself or by an equal before it. -/
theorem insertedPlace [ReflCmp cmp] {x : α} {xs kept : List α} (mem : x ∈ xs) :
    ∃ y ∈ xs.foldl (fun kept x => insertNew cmp x kept) kept, cmp x y = .eq := by
  induction xs generalizing kept with
  | nil => contradiction
  | cons first rest ih =>
    rw [List.foldl_cons]
    rcases List.mem_cons.mp mem with rfl | later
    · obtain ⟨y, inside, same⟩ : ∃ y ∈ insertNew cmp x kept, cmp x y = .eq := insertNewPlace x kept
      exact ⟨y, insertedKeeps inside, same⟩
    · exact ih later

theorem upsertFind [TransCmp cmp] (x z : α) (xs : List α) :
    (upsert cmp x xs).find? (fun y => cmp z y == .eq) =
      if cmp z x = .eq then some x else xs.find? (fun y => cmp z y == .eq) := by
  induction xs with
  | nil => simp [upsert]
  | cons head rest ih =>
    simp only [upsert]
    split
    · by_cases found : cmp z x = .eq <;> simp [List.find?_cons, found]
    · -- the new element takes the place of one that compares equal to it
      rename_i same
      have alike : cmp z head = cmp z x := (TransCmp.congr_right same).symm
      by_cases found : cmp z x = .eq <;> simp [alike, found]
    · rename_i above
      rw [List.find?_cons, List.find?_cons, ih]
      split
      · rename_i found
        have equal : cmp z head = .eq := by simpa using found
        have apart : cmp z x ≠ .eq := by
          intro same
          rw [TransCmp.congr_left same, above] at equal
          contradiction
        rw [if_neg apart]
      · rfl

/-- Each element comes before all that follow it. -/
def Ascending (cmp : α → α → Ordering) (xs : List α) : Prop :=
  xs.Pairwise fun x y => cmp x y = .lt

instance (xs : List α) : Decidable (Ascending cmp xs) :=
  inferInstanceAs (Decidable (List.Pairwise _ xs))

theorem upsertLast {x : α} {xs : List α} (above : ∀ y ∈ xs, cmp x y = .gt) :
    upsert cmp x xs = xs ++ [x] := by
  induction xs with
  | nil => rfl
  | cons head rest ih =>
    obtain ⟨here, later⟩ := List.forall_mem_cons.mp above
    simp only [upsert, here, ih later, List.cons_append]

theorem upsertAscending [TransCmp cmp] {xs : List α} (ascending : Ascending cmp xs) (x : α) :
    Ascending cmp (upsert cmp x xs) := by
  induction xs with
  | nil => exact List.pairwise_singleton _ _
  | cons head rest ih =>
    obtain ⟨first, others⟩ := List.pairwise_cons.mp ascending
    simp only [upsert]
    split
    · rename_i below
      refine List.pairwise_cons.mpr ⟨List.forall_mem_cons.mpr ⟨below, fun y mem => ?_⟩, ascending⟩
      exact TransCmp.lt_trans below (first y mem)
    · rename_i same
      refine List.pairwise_cons.mpr ⟨fun y mem => ?_, others⟩
      exact (TransCmp.congr_left same).trans (first y mem)
    · rename_i above
      exact List.pairwise_cons.mpr ⟨upsertAll (OrientedCmp.lt_of_gt above) first, ih others⟩

theorem insertNewAscending [TransCmp cmp] {xs : List α} (ascending : Ascending cmp xs) (x : α) :
    Ascending cmp (insertNew cmp x xs) := by
  induction xs with
  | nil => exact List.pairwise_singleton _ _
  | cons head rest ih =>
    obtain ⟨first, others⟩ := List.pairwise_cons.mp ascending
    simp only [insertNew]
    split
    · rename_i below
      refine List.pairwise_cons.mpr ⟨List.forall_mem_cons.mpr ⟨below, fun y mem => ?_⟩, ascending⟩
      exact TransCmp.lt_trans below (first y mem)
    · exact ascending
    · rename_i above
      refine List.pairwise_cons.mpr ⟨fun y mem => ?_, ih others⟩
      rcases insertNewMem mem with rfl | old
      · exact OrientedCmp.lt_of_gt above
      · exact first y old

theorem insertedAscending [TransCmp cmp] {xs kept : List α} (ascending : Ascending cmp kept) :
    Ascending cmp (xs.foldl (fun kept x => insertNew cmp x kept) kept) := by
  induction xs generalizing kept with
  | nil => exact ascending
  | cons x rest ih => exact ih (insertNewAscending ascending x)

theorem ascendingDistinct [TransCmp cmp] {xs : List α} (ascending : Ascending cmp xs) {x y : α}
    (left : x ∈ xs) (right : y ∈ xs) (same : cmp x y = .eq) : x = y := by
  induction xs with
  | nil => contradiction
  | cons head rest ih =>
    obtain ⟨first, others⟩ := List.pairwise_cons.mp ascending
    rcases List.mem_cons.mp left with rfl | before <;>
      rcases List.mem_cons.mp right with rfl | after
    · rfl
    · exact nomatch (first y after).symm.trans same
    · exact nomatch (first x before).symm.trans (OrientedCmp.eq_symm same)
    · exact ih others before after

theorem keysDistinct {β : Type} {key : α → β} (alike : ∀ x y, key x = key y → cmp x y = .eq)
    {xs : List α} (ascending : Ascending cmp xs) : (xs.map key).Nodup := by
  refine List.pairwise_map.mpr (ascending.imp fun {x y} below same => ?_)
  rw [alike x y same] at below
  contradiction

/-- There is one way only to put the same elements in order. -/
theorem ascendingUnique [TransCmp cmp] {xs ys : List α} (left : Ascending cmp xs)
    (right : Ascending cmp ys) (same : ∀ x, x ∈ xs ↔ x ∈ ys) : xs = ys := by
  have self (x : α) : cmp x x = .eq := ReflCmp.compare_self
  have irreflexive : Std.Irrefl fun x y => cmp x y = .lt :=
    ⟨fun x below => nomatch below.symm.trans (self x)⟩
  have antisymmetric : Std.Antisymm fun x y => cmp x y = .lt :=
    ⟨fun x y below above => nomatch above.symm.trans (OrientedCmp.gt_of_lt below)⟩
  exact List.Pairwise.eq_of_mem_iff left right same

/-- Look-up by a key that no two elements share. -/
theorem findKeyed {β : Type} [BEq β] [LawfulBEq β] {key : α → β} {xs : List α}
    (distinct : (xs.map key).Nodup) {x : α} (mem : x ∈ xs) :
    xs.find? (fun y => key y == key x) = some x := by
  induction xs with
  | nil => contradiction
  | cons first rest ih =>
    obtain ⟨fresh, distinct⟩ := List.nodup_cons.mp distinct
    rcases List.mem_cons.mp mem with rfl | later
    · rw [List.find?_cons, beq_self_eq_true]
    · have apart : (key first == key x) = false := by
        rw [beq_eq_false_iff_ne]
        intro same
        exact fresh (same ▸ List.mem_map_of_mem later)
      rw [List.find?_cons, apart]
      exact ih distinct later

theorem foundKeyed {β : Type} [BEq β] [LawfulBEq β] {xs : List (β × α)}
    (distinct : (xs.map Prod.fst).Nodup) {key : β} {x : α} :
    (xs.find? fun entry => entry.1 == key).map Prod.snd = some x ↔ (key, x) ∈ xs := by
  constructor
  · intro found
    obtain ⟨entry, first, rfl⟩ := Option.map_eq_some_iff.mp found
    have named : entry.1 = key := by simpa using List.find?_some first
    exact named ▸ List.mem_of_find?_eq_some first
  · intro mem
    rw [findKeyed distinct mem, Option.map_some]

theorem sortPerm (cmp : α → α → Ordering) (xs : List α) : (sort cmp xs).Perm xs :=
  List.mergeSort_perm _ _

theorem sortMem {x : α} {xs : List α} : x ∈ sort cmp xs ↔ x ∈ xs :=
  (sortPerm cmp xs).mem_iff

theorem sortByLE (cmp : α → α → Ordering) (xs : List α) :
    sort cmp xs = xs.mergeSort fun x y => (cmp x y).isLE := by
  have same : (fun x y => cmp x y != .gt) = fun x y => (cmp x y).isLE := by
    funext x y
    cases cmp x y <;> rfl
  rw [sort, same]

theorem isLETotal (cmp : α → α → Ordering) [OrientedCmp cmp] (x y : α) :
    ((cmp x y).isLE || (cmp y x).isLE) = true := by
  have swapped : cmp x y = (cmp y x).swap := OrientedCmp.eq_swap
  rw [swapped]
  cases cmp y x <;> rfl

theorem isLETrans (cmp : α → α → Ordering) [TransCmp cmp] (x y z : α) :
    (cmp x y).isLE → (cmp y z).isLE → (cmp x z).isLE := TransCmp.isLE_trans

theorem sortSorted [TransCmp cmp] (xs : List α) :
    (sort cmp xs).Pairwise fun x y => (cmp x y).isLE := by
  rw [sortByLE]
  exact List.pairwise_mergeSort (isLETrans cmp) (isLETotal cmp) xs

theorem sortedHead [TransCmp cmp] {x y : α} {xs : List α}
    (sorted : (x :: xs).Pairwise fun x y => (cmp x y).isLE) (mem : y ∈ x :: xs) :
    (cmp x y).isLE := by
  rcases List.mem_cons.mp mem with rfl | later
  · exact ReflCmp.isLE_rfl
  · exact (List.pairwise_cons.mp sorted).1 y later

/-- Sorting puts one element after the other in front of the first that is not less. -/
theorem sortInserted [TransCmp cmp] (xs : List α) :
    sort cmp xs = xs.insertionSort fun x y => (cmp x y).isLE := by
  rw [sortByLE]
  induction xs with
  | nil => rw [List.mergeSort_nil, List.insertionSort_nil]
  | cons x rest ih =>
    obtain ⟨less, others, whole, remaining, above⟩ :=
      List.mergeSort_cons (isLETrans cmp) (isLETotal cmp) x rest
    have sorted := List.pairwise_mergeSort (isLETrans cmp) (isLETotal cmp) (x :: rest)
    rw [whole] at sorted
    have front : ∀ y ∈ less, decide ¬(cmp x y).isLE := by simpa using above
    have back : others.takeWhile (fun y => decide ¬(cmp x y).isLE) = [] ∧
        others.dropWhile (fun y => decide ¬(cmp x y).isLE) = others := by
      cases others with
      | nil => exact ⟨rfl, rfl⟩
      | cons y others =>
        have behind := (List.pairwise_cons.mp (List.pairwise_append.mp sorted).2.1).1 y
          List.mem_cons_self
        have stops : ¬decide ¬(cmp x y).isLE := by rw [behind]; decide
        exact ⟨List.takeWhile_cons_of_neg stops, List.dropWhile_cons_of_neg stops⟩
    rw [List.insertionSort_cons, ← ih, whole, remaining, List.orderedInsert_eq_take_drop,
      List.takeWhile_append_of_pos front, List.dropWhile_append_of_pos front, back.1, back.2,
      List.append_nil]

/-- What is in order already is what sorting makes of the same elements. -/
theorem sortUnique [TransCmp cmp] {xs ys : List α} (ascending : Ascending cmp ys)
    (same : ys.Perm xs) : sort cmp xs = ys := by
  have perm : (sort cmp xs).Perm ys := (sortPerm cmp xs).trans same.symm
  refine perm.eq_of_pairwise (fun x y left right below above => ?_) (sortSorted xs)
    (ascending.imp fun {x y} before => ?_)
  · have equal : cmp x y = .eq := OrientedCmp.isLE_antisymm below above
    exact ascendingDistinct ascending (perm.mem_iff.mp left) right equal
  · rw [before]
    rfl

/-- What a sorted list begins with comes before nothing less. -/
theorem sortFirst [TransCmp cmp] {x y : α} {xs rest : List α} (first : sort cmp xs = x :: rest)
    (mem : y ∈ xs) : (cmp x y).isLE := by
  have sorted : (sort cmp xs).Pairwise fun x y => (cmp x y).isLE := sortSorted xs
  rw [first] at sorted
  exact sortedHead sorted (first ▸ sortMem.mpr mem)

end PassTuner.Sorted

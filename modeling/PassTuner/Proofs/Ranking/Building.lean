import PassTuner.Proofs.Ranking
import PassTuner.Proofs.Sorted.Stable

/-! All ways of building a ranking agree.

A ranking is built by sorting, by insertion and by taking in another ranking, in any order. What
comes of it depends on the evaluations alone and on the order in which they were given: it is their
stable sort. Insertion searches for its place, which takes a list in order; every list that it
meets is. -/
namespace PassTuner.Sorted
open Std

variable {α : Type} {cmp : α → α → Ordering} {x : α} {xs ys us vs : List α} {place : Nat}

/- Up to a place nothing comes after `x`, and from there on everything does. Where there is such a
place a search by bisection finds it. -/
structure PartedAt (cmp : α → α → Ordering) (x : α) (xs : List α) (place : Nat) : Prop where
  inside : place ≤ xs.length
  front : ∀ y ∈ xs.take place, cmp y x ≠ .gt
  back : ∀ y ∈ xs.drop place, cmp y x = .gt

theorem sortedParted [TransCmp cmp] (sorted : xs.Pairwise fun x y => (cmp x y).isLE) (x : α) :
    ∃ place, PartedAt cmp x xs place := by
  induction xs with
  | nil => exact ⟨0, by simp, by simp, by simp⟩
  | cons y rest ih =>
    obtain ⟨first, others⟩ := List.pairwise_cons.mp sorted
    by_cases behind : cmp y x = .gt
    · -- what follows `y` comes after `x` as well
      refine ⟨0, by simp, by simp, List.forall_mem_cons.mpr ⟨behind, fun z mem => ?_⟩⟩
      exact TransCmp.gt_of_isGE_of_gt (OrientedCmp.isGE_of_isLE (first z mem)) behind
    · obtain ⟨place, inside, front, back⟩ := ih others
      exact ⟨place + 1, by simpa using inside, List.forall_mem_cons.mpr ⟨behind, front⟩, back⟩

theorem insertAfterPlace (parted : PartedAt cmp x xs place) :
    insertAfter cmp x xs = xs.take place ++ x :: xs.drop place := by
  induction xs generalizing place with
  | nil => simp [insertAfter]
  | cons y rest ih =>
    obtain ⟨inside, front, back⟩ := parted
    cases place with
    | zero =>
      have behind : cmp y x = .gt := back y List.mem_cons_self
      simp [insertAfter, behind]
    | succ place =>
      obtain ⟨before, others⟩ := List.forall_mem_cons.mp front
      have later := ih ⟨by simpa using inside, others, back⟩
      simp [insertAfter, later]

/- Sorted, with equals in the order in which `ys` has them. -/
structure Arranges (cmp : α → α → Ordering) (xs ys : List α) : Prop where
  perm : xs.Perm ys
  sorted : xs.Pairwise fun x y => (cmp x y).isLE
  stable : ∀ z, alike cmp z xs = alike cmp z ys

theorem sortArranges [TransCmp cmp] (xs : List α) : Arranges cmp (sort cmp xs) xs :=
  ⟨sortPerm cmp xs, sortSorted xs, fun z => sortAlike z xs⟩

namespace Arranges

theorem unique [TransCmp cmp] {zs : List α} (left : Arranges cmp xs zs)
    (right : Arranges cmp ys zs) : xs = ys := by
  have places : List.Forall₂ (· = ·) xs ys := by
    refine sortedPlaces left.sorted right.sorted fun z => ?_
    rw [left.stable, right.stable, List.forall₂_eq_eq_eq]
  rwa [List.forall₂_eq_eq_eq] at places

theorem merged [TransCmp cmp] (left : Arranges cmp xs us) (right : Arranges cmp ys vs) :
    Arranges cmp (sort cmp (xs ++ ys)) (us ++ vs) where
  perm := (sortPerm cmp _).trans (left.perm.append right.perm)
  sorted := sortSorted _
  stable z := by rw [sortAlike, alikeAppend, alikeAppend, left.stable, right.stable]

theorem between [TransCmp cmp] {before after : List α} (arranges : Arranges cmp (before ++ after) ys)
    (front : ∀ y ∈ before, cmp y x ≠ .gt) (back : ∀ y ∈ after, cmp y x = .gt) :
    Arranges cmp (before ++ x :: after) (ys ++ [x]) where
  perm := by
    have moved : (before ++ x :: after).Perm ((before ++ after) ++ [x]) :=
      List.perm_middle.trans (List.perm_append_singleton x _).symm
    exact moved.trans (arranges.perm.append_right [x])
  sorted := by
    obtain ⟨left, right, across⟩ := List.pairwise_append.mp arranges.sorted
    have behind : ∀ y ∈ after, (cmp x y).isLE := fun y mem => by
      rw [OrientedCmp.lt_of_gt (back y mem)]
      rfl
    refine List.pairwise_append.mpr ⟨left, List.pairwise_cons.mpr ⟨behind, right⟩, fun y mem => ?_⟩
    exact List.forall_mem_cons.mpr ⟨Ordering.isLE_iff_ne_gt.mpr (front y mem), across y mem⟩
  stable z := by
    rw [alikeAppend, alikeAppend, ← arranges.stable z, alikeAppend, alikeCons, alikeCons]
    split
    · -- what equals `x` is all in front of it
      rename_i same
      have none : alike cmp z after = [] := by
        refine List.filter_eq_nil_iff.mpr fun y mem => ?_
        have apart : cmp z y = .lt :=
          (TransCmp.congr_left same).trans (OrientedCmp.lt_of_gt (back y mem))
        simp [apart]
      rw [none]
      simp [alike]
    · simp [alike]

theorem inserted [TransCmp cmp] (arranges : Arranges cmp xs ys) (x : α) :
    Arranges cmp (insertAfter cmp x xs) (ys ++ [x]) := by
  obtain ⟨place, parted⟩ := sortedParted arranges.sorted x
  rw [insertAfterPlace parted]
  refine between ?_ parted.front parted.back
  rwa [List.take_append_drop]

end Arranges

end PassTuner.Sorted

namespace PassTuner.Ranking
open Sorted

/- All the ways by which evaluations are made into a ranking, in the order in which they come. -/
inductive Made : List Evaluation → Ranking → Prop
  | none : Made [] empty
  | sorted (es : List Evaluation) : Made es (ofList es)
  | inserted {es r} (before : Made es r) (e : Evaluation) : Made (es ++ [e]) (r.insert e)
  | extended {es fs r q} (left : Made es r) (right : Made fs q) : Made (es ++ fs) (r.extend q)

theorem Made.arranges {es : List Evaluation} {r : Ranking} (made : Made es r) :
    Arranges Evaluation.order r.entries es := by
  induction made with
  | none => exact ⟨.refl _, List.Pairwise.nil, fun z => rfl⟩
  | sorted es => exact sortArranges es
  | inserted before e ih => exact ih.inserted e
  | extended left right ihLeft ihRight => exact ihLeft.merged ihRight

theorem Made.same {es : List Evaluation} {r : Ranking} (made : Made es r) : r = ofList es :=
  congrArg Ranking.mk (made.arranges.unique (sortArranges es))

theorem Made.insertAll {es : List Evaluation} {r : Ranking} (made : Made es r)
    (fs : List Evaluation) : Made (es ++ fs) (fs.foldl insert r) := by
  induction fs generalizing es r with
  | nil => rwa [List.append_nil]
  | cons e rest ih =>
    have later : Made ((es ++ [e]) ++ rest) (rest.foldl insert (r.insert e)) := ih (made.inserted e)
    rwa [List.append_assoc] at later

/- Where the search for a place stops, and what is done there. -/
structure PlacedBy (r : Ranking) (e : Evaluation) : Prop where
  found : ∃ place, PartedAt Evaluation.order e r.entries place
  there : ∀ place, PartedAt Evaluation.order e r.entries place →
    (r.insert e).entries = r.entries.take place ++ e :: r.entries.drop place

theorem Made.placed {es : List Evaluation} {r : Ranking} (made : Made es r) (e : Evaluation) :
    PlacedBy r e :=
  ⟨sortedParted made.arranges.sorted e, fun _ parted => insertAfterPlace parted⟩

structure WaysAgree (xs ys : List Evaluation) : Prop where
  extended : (ofList xs).extend (ofList ys) = ofList (xs ++ ys)
  inserted : (xs ++ ys).foldl insert empty = ofList (xs ++ ys)
  arranged : Arranges Evaluation.order (ofList (xs ++ ys)).entries (xs ++ ys)
  -- each insertion on the way meets a list in order
  placed : ∀ before e after, xs ++ ys = before ++ e :: after →
    PlacedBy (before.foldl insert empty) e
  -- and so with any other way
  made : ∀ r, Made (xs ++ ys) r → r = ofList (xs ++ ys)

theorem waysAgree (xs ys : List Evaluation) : WaysAgree xs ys where
  extended := (Made.extended (.sorted xs) (.sorted ys)).same
  inserted := (Made.none.insertAll (xs ++ ys)).same
  arranged := sortArranges (xs ++ ys)
  placed before e _ _ := (Made.none.insertAll before).placed e
  made _ way := way.same

/- These two are level, and they can be told apart. -/
example :
    let measured : Evaluation := ⟨.empty, .nan, .measured .one⟩
    let failed : Evaluation := ⟨.empty, .nan, .failed "no cost"⟩
    ([measured, failed].foldl insert empty).entries = [measured, failed] ∧
      ([failed, measured].foldl insert empty).entries = [failed, measured] := by decide

end PassTuner.Ranking

import Mathlib.Data.Set.Function
import PassTuner.Proofs.Candidate.Share

/-! How the entries that evolve are drawn.

For one slot after the other of an array of indices, a slot is drawn from there on, and the two are
exchanged; the indices in the first slots are the selection. Every selection, in every order, comes
from one sequence of draws and from no other, so that none is preferred as long as no draw is. The
choice that runs is this one: it keeps a draw as its offset from the slot, and of the array what is
left behind the slots that are done. -/
namespace PassTuner.Candidate

section

variable {α : Type}

/-- What is left for the later choices when one has been made. -/
def remaining (first : α) (rest : List α) (offset : Nat) : List α :=
  ((first :: rest).set offset first).tail

theorem remainingLength (first : α) (rest : List α) (offset : Nat) :
    (remaining first rest offset).length = rest.length := by
  simp [remaining]

variable {first : α} {rest : List α} {offset : Nat}

theorem chooseAtStep (inside : offset < (first :: rest).length) (offsets : List Nat) :
    chooseAt (first :: rest) (offset :: offsets) =
      (first :: rest)[offset] :: chooseAt (remaining first rest offset) offsets := by
  cases offset with
  | zero => rfl
  | succ offset =>
    have within : offset < rest.length := Nat.lt_of_succ_lt_succ inside
    rw [chooseAt, List.getElem?_eq_getElem within]
    rfl

theorem remainingPerm (inside : offset < (first :: rest).length) :
    ((first :: rest)[offset] :: remaining first rest offset).Perm (first :: rest) := by
  cases offset with
  | zero => exact .refl _
  | succ offset => exact exchanged (List.getElem?_eq_getElem (Nat.lt_of_succ_lt_succ inside))

/-- Offsets for choices among so many elements, one of which each choice takes away. -/
def Offsets (left : Nat) (offsets : List Nat) : Prop :=
  ∀ i offset, offsets[i]? = some offset → i + offset < left

theorem offsetsCons {left : Nat} {offsets : List Nat} :
    Offsets left (offset :: offsets) ↔ offset < left ∧ Offsets (left - 1) offsets := by
  constructor
  · intro within
    refine ⟨Nat.zero_add offset ▸ within 0 offset rfl, fun i later found => ?_⟩
    have below := within (i + 1) later found
    omega
  · rintro ⟨here, later⟩ (_ | i) draw found
    · cases found
      omega
    · have below := later i draw found
      omega

theorem chooseAtInjective {xs : List α} (distinct : xs.Nodup) {offsets others : List Nat}
    (left : Offsets xs.length offsets) (right : Offsets xs.length others)
    (length : offsets.length = others.length) (same : chooseAt xs offsets = chooseAt xs others) :
    offsets = others := by
  induction offsets generalizing xs others with
  | nil => exact (List.length_eq_zero_iff.mp length.symm).symm
  | cons offset offsets ih =>
    rcases others with _ | ⟨other, others⟩
    · contradiction
    obtain ⟨here, later⟩ := offsetsCons.mp left
    obtain ⟨there, after⟩ := offsetsCons.mp right
    rcases xs with _ | ⟨first, rest⟩
    · contradiction
    rw [chooseAtStep here, chooseAtStep there] at same
    obtain ⟨chosen, same⟩ := List.cons.inj same
    obtain rfl : offset = other := distinct.getElem_inj_iff.mp chosen
    have apart := ((remainingPerm here).nodup_iff.mpr distinct).of_cons
    rw [List.length_cons, Nat.add_sub_cancel, ← remainingLength first rest offset] at later after
    rw [ih apart later after (Nat.succ.inj length) same]

theorem chooseAtSurjective {xs chosen : List α} (distinct : chosen.Nodup)
    (within : ∀ y ∈ chosen, y ∈ xs) :
    ∃ offsets, offsets.length = chosen.length ∧ Offsets xs.length offsets ∧
      chooseAt xs offsets = chosen := by
  induction chosen generalizing xs with
  | nil => exact ⟨[], rfl, fun _ _ found => by contradiction, by cases xs <;> rfl⟩
  | cons y later ih =>
    obtain ⟨fresh, apart⟩ := List.nodup_cons.mp distinct
    obtain ⟨here, others⟩ := List.forall_mem_cons.mp within
    rcases xs with _ | ⟨first, rest⟩
    · contradiction
    obtain ⟨offset, inside, rfl⟩ := List.getElem_of_mem here
    have left : ∀ z ∈ later, z ∈ remaining first rest offset := by
      intro z mem
      rcases List.mem_cons.mp ((remainingPerm inside).mem_iff.mpr (others z mem)) with rfl | left
      · contradiction
      · exact left
    obtain ⟨offsets, length, small, same⟩ := ih apart left
    rw [remainingLength] at small
    refine ⟨offset :: offsets, congrArg (· + 1) length, offsetsCons.mpr ⟨inside, small⟩, ?_⟩
    rw [chooseAtStep inside, same]

/-- Exchange one slot after the other with the one that is drawn for it. -/
def exchangeFrom : (slot : Nat) → List Nat → Array α → Array α
  | _, [], order => order
  | slot, draw :: draws, order => exchangeFrom (slot + 1) draws (order.swapIfInBounds slot draw)

/-- The draws that stand so far behind their slots. -/
def drawsFrom (slot : Nat) (offsets : List Nat) : List Nat :=
  offsets.mapIdx fun i offset => slot + i + offset

theorem drawsFromCons (slot : Nat) (offsets : List Nat) :
    drawsFrom slot (offset :: offsets) = (slot + offset) :: drawsFrom (slot + 1) offsets := by
  simp only [drawsFrom, List.mapIdx_cons, Nat.zero_add, Nat.add_assoc, Nat.add_comm 1]

theorem swapFront {front : List α} {order : Array α} (whole : order.toList = front ++ first :: rest)
    (inside : offset < (first :: rest).length) :
    (order.swapIfInBounds front.length (front.length + offset)).toList =
      (front ++ [(first :: rest)[offset]]) ++ remaining first rest offset := by
  have size : order.size = front.length + (first :: rest).length := by
    rw [← Array.length_toList, whole, List.length_append]
  have slot : front.length < order.size := by simp [size]
  have drawn : front.length + offset < order.size := size ▸ Nat.add_lt_add_left inside _
  have kept : order[front.length] = first := by simp [← Array.getElem_toList, whole]
  have chosen : order[front.length + offset] = (first :: rest)[offset] := by
    simp [← Array.getElem_toList, whole]
  have placed : ((first :: rest)[offset] :: rest).set offset first =
      (first :: rest)[offset] :: remaining first rest offset := by
    cases offset <;> rfl
  rw [Array.swapIfInBounds_def, dif_pos slot, dif_pos drawn, Array.toList_swap, whole, kept, chosen,
    List.set_append_right _ _ (Nat.le_refl _), Nat.sub_self, List.set_cons_zero,
    List.set_append_right _ _ (Nat.le_add_right _ _), Nat.add_sub_cancel_left, placed,
    List.append_assoc, List.singleton_append]

theorem exchangeFromFront {front left : List α} {order : Array α} {offsets : List Nat}
    (whole : order.toList = front ++ left) (within : Offsets left.length offsets) :
    (exchangeFrom front.length (drawsFrom front.length offsets) order).toList.take
      (front.length + offsets.length) = front ++ chooseAt left offsets := by
  induction offsets generalizing front left order with
  | nil =>
    have none : chooseAt left [] = [] := by cases left <;> rfl
    rw [none, List.append_nil]
    simp [drawsFrom, exchangeFrom, whole]
  | cons offset offsets ih =>
    obtain ⟨inside, later⟩ := offsetsCons.mp within
    rcases left with _ | ⟨first, rest⟩
    · contradiction
    rw [List.length_cons, Nat.add_sub_cancel, ← remainingLength first rest offset] at later
    have behind := ih (swapFront whole inside) later
    rw [drawsFromCons, exchangeFrom, chooseAtStep inside]
    simpa [Nat.add_assoc, Nat.add_comm 1] using behind

end

section

variable {size n : Nat} {draws others offsets chosen : List Nat}

/-- A draw for each of the first slots, from the slot itself up to the last slot of all. -/
structure Draws (size n : Nat) (draws : List Nat) : Prop where
  length : draws.length = n
  within : ∀ slot draw, draws[slot]? = some draw → slot ≤ draw ∧ draw < size

/-- What may be selected: distinct indices in some order. -/
structure Selection (size n : Nat) (chosen : List Nat) : Prop where
  length : chosen.length = n
  distinct : chosen.Nodup
  within : ∀ index ∈ chosen, index < size

def offsetsOf (draws : List Nat) : List Nat := draws.mapIdx fun slot draw => draw - slot

theorem offsetsOfLength (draws : List Nat) : (offsetsOf draws).length = draws.length :=
  List.length_mapIdx

theorem offsetsRestored (offsets : List Nat) : offsetsOf (drawsFrom 0 offsets) = offsets := by
  refine List.ext_getElem? fun slot => ?_
  rw [drawsFrom, offsetsOf, List.getElem?_mapIdx, List.getElem?_mapIdx]
  cases offsets[slot]? <;> simp

theorem drawsWithin (within : Offsets size offsets) :
    Draws size offsets.length (drawsFrom 0 offsets) where
  length := List.length_mapIdx
  within slot draw found := by
    rw [drawsFrom, List.getElem?_mapIdx] at found
    obtain ⟨offset, here, rfl⟩ := Option.map_eq_some_iff.mp found
    have below := within slot offset here
    omega

theorem drawOffsetsWithin (most : n ≤ size) (random : Random) :
    Offsets size ((drawOffsets n size).run random).1 := by
  induction n generalizing size random with
  | zero =>
    intro slot offset found
    contradiction
  | succ n ih =>
    rw [drawOffsets, Random.runBind, Random.runBind]
    exact offsetsCons.mpr ⟨Random.belowBound (by omega) random, ih (by omega) _⟩

namespace Draws

theorem restored (drawn : Draws size n draws) : drawsFrom 0 (offsetsOf draws) = draws := by
  refine List.ext_getElem? fun slot => ?_
  rw [drawsFrom, offsetsOf, List.getElem?_mapIdx, List.getElem?_mapIdx]
  cases here : draws[slot]? with
  | none => rfl
  | some draw =>
    have inside := drawn.within slot draw here
    simp only [Option.map_some, Option.some.injEq]
    omega

theorem fits (drawn : Draws size n draws) :
    Offsets (List.range size).length (offsetsOf draws) := by
  intro slot offset found
  rw [offsetsOf, List.getElem?_mapIdx] at found
  obtain ⟨draw, here, rfl⟩ := Option.map_eq_some_iff.mp found
  have inside := drawn.within slot draw here
  rw [List.length_range]
  omega

theorem selection (most : n ≤ size) (drawn : Draws size n draws) :
    Selection size n (chooseAt (List.range size) (offsetsOf draws)) := by
  obtain ⟨others, perm⟩ := chooseAtPerm (List.range size) (offsetsOf draws)
  refine ⟨?_, (perm.nodup_iff.mpr List.nodup_range).of_append_left, fun index mem => ?_⟩
  · rw [chooseAtLength, List.length_range, offsetsOfLength, drawn.length, Nat.min_eq_right most]
  · exact List.mem_range.mp (perm.mem_iff.mp (List.mem_append_left others mem))

theorem unique (drawn : Draws size n draws) (also : Draws size n others)
    (same : chooseAt (List.range size) (offsetsOf draws) =
      chooseAt (List.range size) (offsetsOf others)) : draws = others := by
  have length : (offsetsOf draws).length = (offsetsOf others).length := by
    rw [offsetsOfLength, offsetsOfLength, drawn.length, also.length]
  have offsets : offsetsOf draws = offsetsOf others :=
    chooseAtInjective List.nodup_range drawn.fits also.fits length same
  rw [← drawn.restored, ← also.restored, offsets]

theorem exchanged (drawn : Draws size n draws) :
    (exchangeFrom 0 draws (Array.range size)).toList.take n =
      chooseAt (List.range size) (offsetsOf draws) := by
  have whole : (Array.range size).toList = [] ++ List.range size := Array.toList_range
  have front := exchangeFromFront whole drawn.fits
  rwa [List.length_nil, Nat.zero_add, offsetsOfLength, drawn.length, drawn.restored,
    List.nil_append] at front

end Draws

theorem Selection.drawn (selection : Selection size n chosen) :
    ∃ draws, Draws size n draws ∧ chooseAt (List.range size) (offsetsOf draws) = chosen := by
  have among : ∀ index ∈ chosen, index ∈ List.range size := fun index mem =>
    List.mem_range.mpr (selection.within index mem)
  obtain ⟨offsets, length, within, same⟩ := chooseAtSurjective selection.distinct among
  rw [List.length_range] at within
  refine ⟨drawsFrom 0 offsets, selection.length ▸ length ▸ drawsWithin within, ?_⟩
  rw [offsetsRestored, same]

/-- Every selection comes from one sequence of draws. It is what an array holds in its first slots
after the exchanges, and what is drawn when entries evolve is such a sequence. -/
theorem selectionsDrawnOnce (most : n ≤ size) :
    Set.BijOn (fun draws => chooseAt (List.range size) (offsetsOf draws))
      {draws | Draws size n draws} {chosen | Selection size n chosen} ∧
    (∀ draws, Draws size n draws →
      (exchangeFrom 0 draws (Array.range size)).toList.take n =
        chooseAt (List.range size) (offsetsOf draws)) ∧
    ∀ random, ∃ draws, Draws size n draws ∧
      ((drawOffsets n size).run random).1 = offsetsOf draws := by
  refine ⟨⟨fun draws drawn => drawn.selection most, fun draws drawn others also => drawn.unique also,
    fun chosen selection => selection.drawn⟩, fun draws drawn => drawn.exchanged, fun random => ?_⟩
  have within := drawsWithin (drawOffsetsWithin most random)
  rw [drawOffsetsLength] at within
  exact ⟨_, within, (offsetsRestored _).symm⟩

/-- The first two draws fall on one slot, which holds another index by then. -/
theorem selectionsDrawnOnceTwice : 3 ≤ 5 ∧ Draws 5 3 [4, 4, 3] ∧
    (exchangeFrom 0 [4, 4, 3] (Array.range 5)).toList.take 3 = [4, 0, 3] ∧
    ∀ draws, Draws 5 3 draws → chooseAt (List.range 5) (offsetsOf draws) = [4, 0, 3] →
      draws = [4, 4, 3] := by
  have drawn : Draws 5 3 [4, 4, 3] := by
    refine ⟨rfl, ?_⟩
    rintro (_ | _ | _ | slot) draw found
    · cases found
      decide
    · cases found
      decide
    · cases found
      decide
    · contradiction
  obtain ⟨once, same, _⟩ := @selectionsDrawnOnce 5 3 (by decide)
  refine ⟨by decide, drawn, same _ drawn, fun draws also selected => ?_⟩
  exact once.injOn also drawn selected

end

end PassTuner.Candidate

import PassTuner.Proofs.Checked
import PassTuner.Proofs.Json.Tree
import PassTuner.Proofs.Sorted

/-! What is decoded from written text.

`Restores` says of a writer and a decoder that what is written of a value is read back as that
value exactly if the value fits, and is refused otherwise: nothing is read back as another value.
It carries over from items to arrays, and from trees to texts. -/
namespace PassTuner.Json

variable {α β : Type}

/-- What reading back gives with so many levels of nesting: the value that was written, if it
fits. -/
def Restores (toJson : α → Json) (decode : Decoder α) (room : Nat) (fits : α → Prop) : Prop :=
  ∀ x y, decode (kept room (toJson x)) = .ok y ↔ fits x ∧ x = y

theorem keptString (room : Nat) (s : String) : kept room (.string s) = .string s := rfl

theorem keptObject (room : Nat) (fields : List (String × Json)) :
    kept (room + 1) (.object fields) = .object (keptFields room fields) := rfl

theorem doubleRestored (room : Nat) : Restores .float asDouble room fun x => x.isFinite := by
  intro x y
  rw [kept]
  split
  · rename_i finite
    exact Checked.passed finite
  · rename_i lost
    exact Checked.refused lost

theorem natRestored (bound : Nat) (small : bound ≤ 0xffffffffffffffff) (room : Nat) :
    Restores (fun n : Nat => .int n) (asNat bound) room fun n => n ≤ bound := by
  intro n m
  rw [kept, keptInt]
  split
  · rw [asNat, Int.toNat_natCast]
    split
    · rename_i within
      exact Checked.passed (by omega)
    · rename_i above
      exact Checked.refused (by omega)
  · rename_i wide
    -- what 64 bits do not hold is read as a float, or not at all
    have refusal : asNat bound
        (ofDouble (Double.ofDecimal (decide ((n : Int) < 0)) (n : Int).natAbs 0)) = refuse := by
      rw [ofDouble]
      split <;> rfl
    rw [refusal]
    exact Checked.refused (by omega)

theorem itemsRestored {toJson : α → Json} {decode : Decoder α} {room : Nat} {fits : α → Prop}
    (each : Restores toJson decode room fits) (xs ys : List α) :
    decodeItems decode (keptItems room (xs.map toJson)) = .ok ys ↔ (∀ x ∈ xs, fits x) ∧ xs = ys := by
  induction xs generalizing ys with
  | nil =>
    refine ⟨fun ok => ⟨nofun, Except.ok.inj ok⟩, ?_⟩
    rintro ⟨_, rfl⟩
    rfl
  | cons x rest ih =>
    rw [List.map_cons, keptItems, decodeItems, List.forall_mem_cons]
    constructor
    · intro ok
      obtain ⟨first, here, ok⟩ := Checked.bindOk.mp ok
      obtain ⟨others, later, ok⟩ := Checked.bindOk.mp ok
      obtain ⟨fitsHere, rfl⟩ := (each x first).mp here
      obtain ⟨fitsLater, rfl⟩ := (ih others).mp later
      exact ⟨⟨fitsHere, fitsLater⟩, Except.ok.inj ok⟩
    · rintro ⟨⟨fitsHere, fitsLater⟩, rfl⟩
      refine Checked.bindOk.mpr ⟨x, (each x x).mpr ⟨fitsHere, rfl⟩, ?_⟩
      exact Checked.bindOk.mpr ⟨rest, (ih rest).mpr ⟨fitsLater, rfl⟩, rfl⟩

theorem arrayRestored {toJson : α → Json} {decode : Decoder α} {room : Nat} {fits : α → Prop}
    (each : Restores toJson decode room fits) :
    Restores (fun xs => .array (xs.map toJson)) (asArray decode) (room + 1)
      (fun xs => ∀ x ∈ xs, fits x) :=
  itemsRestored each

theorem decodeWritten (decode : Decoder α) (style : Style) (tree : Json) (y : α) :
    decodeText decode (String.ofList (write style 0 tree)) = .ok y ↔
      decode (kept nestingLimit tree) = .ok y := by
  rw [decodeText, String.toList_ofList, writtenRead]
  refine Checked.bindOk.trans ?_
  constructor
  · rintro ⟨z, ok, same⟩
    cases same
    exact ok
  · exact fun ok => ⟨y, ok, rfl⟩

theorem textRestored {toJson : α → Json} {decode : Decoder α} {fits : α → Prop}
    (whole : Restores toJson decode nestingLimit fits) (style : Style) (x y : α) :
    decodeText decode (String.ofList (write style 0 (toJson x))) = .ok y ↔ fits x ∧ x = y :=
  (decodeWritten decode style (toJson x) y).trans (whole x y)

theorem decodeMapped (decode : Decoder α) (f : α → β) (text : String) :
    decodeText (fun j => (decode j).map f) text = (decodeText decode text).map f := by
  rw [decodeText, decodeText]
  rcases read text.toList with ⟨tree, ended⟩
  dsimp only
  cases decode tree with
  | error e => rfl
  | ok a => cases ended <;> rfl

section Records

variable {υ σ : Type}

/-- Fields in the order of the slots fill them as the items of an array do. -/
theorem fillInOrder {done rest : List (Slot υ σ)} {items : List υ}
    (distinct : ((done ++ rest).map Slot.name).Nodup) (whole : rest.length = items.length)
    (skip : υ → Except ReadError Unit) (s : σ) :
    fillFields (done ++ rest) skip ((rest.map Slot.name).zip items) (done.map Slot.name).reverse s =
      (fillItems rest items s).map fun s => (((done ++ rest).map Slot.name).reverse, s) := by
  induction rest generalizing done items s with
  | nil =>
    cases List.length_eq_zero_iff.mp whole.symm
    rw [List.append_nil]
    rfl
  | cons slot rest ih =>
    rcases items with _ | ⟨item, items⟩
    · contradiction
    have found : (done ++ slot :: rest).find? (·.name == slot.name) = some slot :=
      Sorted.findKeyed distinct (List.mem_append_right _ List.mem_cons_self)
    have fresh : (done.map Slot.name).reverse.contains slot.name = false := by
      have apart := (List.nodup_append.mp (List.map_append ▸ distinct)).2.2
      rw [List.contains_eq_mem, decide_eq_false_iff_not]
      exact fun old => apart _ (List.mem_reverse.mp old) _ List.mem_cons_self rfl
    have assoc : done ++ slot :: rest = (done ++ [slot]) ++ rest := by simp
    rw [List.map_cons, List.zip_cons_cons, fillFields, found, fillItems]
    simp only [fresh, Bool.false_eq_true, if_false]
    cases slot.store item s with
    | error e => rfl
    | ok s =>
      have later := @ih (done ++ [slot]) items (assoc ▸ distinct) (Nat.succ.inj whole) s
      rw [← assoc, List.map_append, List.reverse_append] at later
      exact later

theorem recordInOrder {slots : List (Slot Json σ)} {fields : List (String × Json)} {blank : σ}
    (distinct : (slots.map Slot.name).Nodup) (named : fields.map Prod.fst = slots.map Slot.name) :
    record slots blank (.object fields) = fillItems slots (fields.map Prod.snd) blank := by
  have whole : slots.length = (fields.map Prod.snd).length := by
    simpa using (congrArg List.length named).symm
  have same : fields = (slots.map Slot.name).zip (fields.map Prod.snd) := by
    rw [← named, List.zip_map', List.map_id']
  have filled := @fillInOrder _ _ [] slots _ distinct whole skipNamed blank
  have met : allMet slots (slots.map Slot.name).reverse := by
    refine List.all_eq_true.mpr fun slot mem => ?_
    have slotNamed := List.mem_map_of_mem (f := Slot.name) mem
    simp [List.contains_eq_mem, slotNamed]
  rw [record]
  conv => lhs; rw [same]
  refine Eq.trans (congrArg (· >>= _) filled) ?_
  cases fillItems slots (fields.map Prod.snd) blank with
  | error e => rfl
  | ok s => exact if_pos met

end Records

end PassTuner.Json

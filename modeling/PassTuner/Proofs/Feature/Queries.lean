import PassTuner.Proofs.Order
import PassTuner.Proofs.Sorted

/-! What a table of features answers.

It gives the value of a reference under a type, the number of the references of a type, and each of
them by its place. The three go together: whatever was inserted, in whatever order and with whatever
types, a reference has a place under a type exactly if it is looked up with that type, and what is
found is the last value that it was given. -/
namespace PassTuner.FeatureSet
open Std

variable {set : FeatureSet} {entries : List (FeatureRef × Value)} {ref : FeatureRef} {value : Value}
variable {type : ValueType}

instance : TransCmp entryOrder :=
  Chain.transCmp (fun a b => (OrientedCmp.eq_swap : a.1.order b.1 = (b.1.order a.1).swap))
    fun a b c => .ofCmp FeatureRef.order a.1 b.1 c.1

theorem ofListAscending (entries : List (FeatureRef × Value)) :
    Sorted.Ascending entryOrder (ofList entries).entries := by
  have inserted (set : FeatureSet) (ascending : Sorted.Ascending entryOrder set.entries) :
      Sorted.Ascending entryOrder
        (entries.foldl (fun set entry => set.insert entry.1 entry.2) set).entries := by
    induction entries generalizing set with
    | nil => exact ascending
    | cons entry rest ih => exact ih _ (Sorted.upsertAscending ascending _)
  exact inserted empty List.Pairwise.nil

/-- The value that a reference was given last. -/
def LastGiven (entries : List (FeatureRef × Value)) (ref : FeatureRef) (value : Value) : Prop :=
  ∃ earlier later, entries = earlier ++ (ref, value) :: later ∧ ∀ entry ∈ later, entry.1 ≠ ref

theorem lastGivenCons {entry : FeatureRef × Value} :
    LastGiven (entry :: entries) ref value ↔ LastGiven entries ref value ∨
      (∀ later ∈ entries, later.1 ≠ ref) ∧ entry = (ref, value) := by
  constructor
  · rintro ⟨earlier, later, whole, others⟩
    rcases earlier with _ | ⟨first, earlier⟩
    · cases whole
      exact .inr ⟨others, rfl⟩
    · cases whole
      exact .inl ⟨earlier, later, rfl, others⟩
  · rintro (⟨earlier, later, rfl, others⟩ | ⟨others, rfl⟩)
    · exact ⟨entry :: earlier, later, rfl, others⟩
    · exact ⟨[], entries, rfl, others⟩

theorem entrySame {a b : FeatureRef × Value} : entryOrder a b = .eq ↔ a.1 = b.1 := by
  rw [entryOrder]
  exact LawfulEqCmp.compare_eq_iff_eq

theorem findPlaced (set : FeatureSet) (ref : FeatureRef) (value : Value) :
    set.find? ref =
      (set.entries.find? fun entry => entryOrder (ref, value) entry == .eq).map Prod.snd := by
  have same : (fun entry : FeatureRef × Value => entry.1 == ref) =
      fun entry => entryOrder (ref, value) entry == .eq := by
    funext entry
    rw [Bool.eq_iff_iff, beq_iff_eq, beq_iff_eq, entrySame]
    exact eq_comm
  rw [find?, same]

theorem insertFind (set : FeatureSet) (feature ref : FeatureRef) (value : Value) :
    (set.insert feature value).find? ref = if ref = feature then some value else set.find? ref := by
  rw [findPlaced _ ref value, findPlaced set ref value, insert, Sorted.upsertFind,
    apply_ite (Option.map _), Option.map_some]
  simp only [entrySame]

-- from the front: what is found is the last of what follows, or was there before all of it
theorem insertedFind (set : FeatureSet) :
    (entries.foldl (fun set entry => set.insert entry.1 entry.2) set).find? ref = some value ↔
      LastGiven entries ref value ∨
        (∀ entry ∈ entries, entry.1 ≠ ref) ∧ set.find? ref = some value := by
  induction entries generalizing set with
  | nil =>
    refine ⟨fun found => .inr ⟨List.forall_mem_nil _, found⟩, ?_⟩
    rintro (⟨earlier, later, whole, _⟩ | ⟨_, found⟩)
    · simp at whole
    · exact found
  | cons entry rest ih =>
    rw [List.foldl_cons, ih, insertFind, lastGivenCons, List.forall_mem_cons, or_assoc]
    refine or_congr_right ?_
    by_cases named : ref = entry.1
    · simp [named, Prod.ext_iff]
    · simp [named, Ne.symm named, Prod.ext_iff]

theorem ofListFind : (ofList entries).find? ref = some value ↔ LastGiven entries ref value := by
  refine (insertedFind empty).trans (or_iff_left ?_)
  rintro ⟨_, found⟩
  contradiction

theorem findMem (ascending : Sorted.Ascending entryOrder set.entries) :
    set.find? ref = some value ↔ (ref, value) ∈ set.entries :=
  Sorted.foundKeyed (Sorted.keysDistinct (fun _ _ => entrySame.mpr) ascending)

theorem lookupOk :
    set.lookup ref type = .ok value ↔ set.find? ref = some value ∧ value.type = type := by
  rw [lookup]
  cases set.find? ref with
  | none => simp
  | some kept =>
    simp only [Option.some.injEq]
    split
    · rename_i same
      exact ⟨fun ok => ⟨Except.ok.inj ok, Except.ok.inj ok ▸ same⟩, fun ⟨same, _⟩ => same ▸ rfl⟩
    · rename_i other
      refine iff_of_false (by simp) ?_
      rintro ⟨rfl, same⟩
      exact other same

theorem ofTypeMem :
    ref ∈ set.ofType type ↔ ∃ value, (ref, value) ∈ set.entries ∧ value.type = type := by
  simp [ofType]

/-- A reference has a place under a type exactly if it is looked up with that type. -/
theorem nthLookup (ascending : Sorted.Ascending entryOrder set.entries) :
    (∃ index, set.nth index type = some ref) ↔ ∃ value, set.lookup ref type = .ok value := by
  simp only [nth, lookupOk, findMem ascending, ← List.mem_iff_getElem?, ofTypeMem]

theorem nthMeasured (ascending : Sorted.Ascending entryOrder set.entries) {index : Nat}
    (found : set.nth index type = some ref) :
    ∃ value, set.find? ref = some value ∧ value.type = type := by
  obtain ⟨value, looked⟩ := (nthLookup ascending).mp ⟨index, found⟩
  exact ⟨value, lookupOk.mp looked⟩

theorem nthResolved (ascending : Sorted.Ascending entryOrder set.entries) {index : Nat}
    (found : set.nth index type = some ref) :
    ∃ value, set.lookup ref type = .ok value ∧ value.type = type := by
  obtain ⟨value, looked⟩ := (nthLookup ascending).mp ⟨index, found⟩
  exact ⟨value, looked, (lookupOk.mp looked).2⟩

theorem nthIncreasing (ascending : Sorted.Ascending entryOrder set.entries) {i j : Nat}
    {a b : FeatureRef} (first : set.nth i type = some a) (second : set.nth j type = some b)
    (before : i < j) : a.order b = .lt := by
  have increasing : (set.ofType type).Pairwise fun a b => a.order b = .lt :=
    List.pairwise_map.mpr (ascending.filter _)
  obtain ⟨inside, rfl⟩ := List.getElem?_eq_some_iff.mp first
  obtain ⟨within, rfl⟩ := List.getElem?_eq_some_iff.mp second
  exact List.pairwise_iff_getElem.mp increasing i j inside within before

theorem countsWhole (set : FeatureSet) :
    set.count .int + set.count .float + set.count .bool + set.count .string = set.size := by
  simp only [count, ofType, List.length_map, ← List.countP_eq_length_filter, size]
  induction set.entries with
  | nil => rfl
  | cons entry rest ih =>
    simp only [List.countP_cons, List.length_cons]
    cases entry.2.type <;> simp <;> omega

/-- The three queries, for a table into which these entries were inserted one after the other. -/
theorem queriesAgree (entries : List (FeatureRef × Value)) :
    let set := ofList entries
    (∀ type,
      (∀ index, (set.nth index type).isSome ↔ index < set.count type) ∧
      (∀ i j a b, set.nth i type = some a → set.nth j type = some b → i < j → a.order b = .lt) ∧
      (∀ ref, (∃ index, set.nth index type = some ref) ↔ ∃ value, set.lookup ref type = .ok value) ∧
      ∀ ref value, set.lookup ref type = .ok value ↔
        value.type = type ∧ LastGiven entries ref value) ∧
    set.count .int + set.count .float + set.count .bool + set.count .string = set.size := by
  intro set
  have ascending : Sorted.Ascending entryOrder set.entries := ofListAscending entries
  refine ⟨fun type => ⟨fun index => ?_, fun _ _ _ _ first second before => ?_, fun ref => ?_,
    fun ref value => ?_⟩, set.countsWhole⟩
  · simp only [nth, count, isSome_getElem?]
  · exact nthIncreasing ascending first second before
  · exact nthLookup ascending
  · rw [lookupOk, ofListFind]
    exact and_comm

/-! A reference whose new value is of another type leaves its place under the old one. -/

example :
    let set := ofList [(⟨"n", ""⟩, .int 4), (⟨"k", ""⟩, .int 1), (⟨"n", ""⟩, .bool true)]
    set.count .int = 1 ∧ set.nth 0 .bool = some ⟨"n", ""⟩ ∧
      set.lookup ⟨"n", ""⟩ .int = .error (.wrongType ⟨"n", ""⟩ .int .bool) := by decide

end PassTuner.FeatureSet

import PassTuner.Proofs.Candidate.Evolution
import PassTuner.Proofs.Double.Arithmetic

/-! The share of a candidate that evolves.

The indices are drawn first, and the entries at them go through the step one after the other, in the
order of their names. `HandedOver` tells of a round by the indices alone, whatever the step does and
whatever state it keeps. -/
namespace PassTuner.Candidate

section

variable {α : Type}

theorem exchanged {x chosen : α} {rest : List α} {offset : Nat}
    (found : rest[offset]? = some chosen) : (chosen :: rest.set offset x).Perm (x :: rest) := by
  obtain ⟨inside, rfl⟩ := List.getElem?_eq_some_iff.mp found
  have placed := List.set_perm_cons_eraseIdx inside x
  have taken := List.getElem_cons_eraseIdx_perm inside
  exact ((placed.cons _).trans (.swap x _ _)).trans (taken.cons x)

/-- What is chosen and what is left are the whole. -/
theorem chooseAtPerm (xs : List α) (offsets : List Nat) :
    ∃ others, (chooseAt xs offsets ++ others).Perm xs := by
  induction offsets generalizing xs with
  | nil => cases xs <;> exact ⟨_, .refl _⟩
  | cons offset offsets ih =>
    cases xs with
    | nil => exact ⟨[], .refl _⟩
    | cons x rest =>
      have first : ∃ others, (x :: chooseAt rest offsets ++ others).Perm (x :: rest) := by
        obtain ⟨others, perm⟩ := ih rest
        exact ⟨others, perm.cons x⟩
      cases offset with
      | zero => exact first
      | succ offset =>
        rw [chooseAt]
        split
        · rename_i chosen found
          obtain ⟨others, perm⟩ := ih (rest.set offset x)
          exact ⟨others, (perm.cons chosen).trans (exchanged found)⟩
        · exact first

theorem chooseAtLength (xs : List α) (offsets : List Nat) :
    (chooseAt xs offsets).length = min xs.length offsets.length := by
  induction offsets generalizing xs with
  | nil => cases xs <;> simp [chooseAt]
  | cons offset offsets ih =>
    cases xs with
    | nil => simp [chooseAt]
    | cons x rest =>
      cases offset with
      | zero => simp [chooseAt, ih, Nat.succ_min_succ]
      | succ offset =>
        rw [chooseAt]
        split <;> simp [ih, Nat.succ_min_succ]

end

theorem drawOffsetsLength (choices left : Nat) (random : Random) :
    ((drawOffsets choices left).run random).1.length = choices := by
  induction choices generalizing left random with
  | zero => rfl
  | succ choices ih =>
    rw [drawOffsets, Random.runBind, Random.runBind]
    exact congrArg (· + 1) (ih _ _)

/-- The drawn indices, put in order. -/
theorem drawnInOrder {size n : Nat} {offsets : List Nat} (some : n ≤ size)
    (length : offsets.length = n) :
    let chosen := (List.range size).filter ((chooseAt (List.range size) offsets).contains ·)
    chosen.Pairwise (· < ·) ∧ chosen.length = n ∧
      chosen.Perm (chooseAt (List.range size) offsets) := by
  obtain ⟨others, perm⟩ := chooseAtPerm (List.range size) offsets
  have distinct := (perm.nodup_iff.mpr List.nodup_range).of_append_left
  have within : ∀ index ∈ chooseAt (List.range size) offsets, index < size := fun index mem =>
    List.mem_range.mp (perm.mem_iff.mp (List.mem_append_left others mem))
  have same : ((List.range size).filter ((chooseAt (List.range size) offsets).contains ·)).Perm
      (chooseAt (List.range size) offsets) := by
    refine (List.perm_ext_iff_of_nodup (List.nodup_range.filter _) distinct).mpr fun index => ?_
    simpa using within index
  refine ⟨List.pairwise_lt_range.filter _, ?_, same⟩
  rw [same.length_eq, chooseAtLength, List.length_range, length, Nat.min_eq_right some]

section

variable {σ : Type} {step : Formula → Evolving σ (Changed Formula)} {chosen : List Nat}
variable {index : Nat} {entries : List Entry} {out : Changed (List Entry)} {s t : σ}
variable {random last : Random}

theorem evolvingLift {α : Type} (draw : StateM Random α) (s : σ) (random : Random) :
    ((draw : Evolving σ α).run s).run random =
      (((draw.run random).1, s), (draw.run random).2) := rfl

/-- The entries at these indices, in this order, are handed over once each: the step gets what was
there before, and what it returns is there after, folded. -/
inductive HandedOver (step : Formula → Evolving σ (Changed Formula)) (before after : List Entry) :
    List Nat → σ → Random → σ → Random → Prop
  | done (s : σ) (random : Random) : HandedOver step before after [] s random s random
  | next {index : Nat} {later : List Nat} {point : DecisionPoint} {f g : Formula} {s t u : σ}
      {random moved last : Random} (old : before[index]? = some (point, f))
      (ran : ((step f).run s).run random = (((g, .ok ()), t), moved))
      (new : after[index]? = some (point, g.simplified))
      (others : HandedOver step before after later t moved u last) :
      HandedOver step before after (index :: later) s random u last

namespace Visits

theorem elsewhere (visits : Visits step chosen index entries s random out t last) (place : Nat)
    (apart : index + place ∉ chosen) : out.1[place]? = entries[place]? := by
  induction visits generalizing place with
  | done index s random => rfl
  | passed _ later ih =>
    cases place with
    | zero => rfl
    | succ place => exact ih place (by rwa [Nat.add_right_comm])
  | refused among ran =>
    cases place with
    | zero => exact absurd (List.contains_iff_mem.mp among) apart
    | succ place => rfl
  | changed among ran later ih =>
    cases place with
    | zero => exact absurd (List.contains_iff_mem.mp among) apart
    | succ place => exact ih place (by rwa [Nat.add_right_comm])

theorem handedOver (visits : Visits step chosen index entries s random out t last)
    (went : out.2 = .ok ()) {before after : List Entry} (left : before.length = index)
    (right : after.length = index) :
    HandedOver step (before ++ entries) (after ++ out.1)
      ((List.range' index entries.length).filter (chosen.contains ·)) s random t last := by
  induction visits generalizing before after with
  | done index s random => exact .done s random
  | passed apart later ih =>
    rw [List.length_cons, List.range'_succ, List.filter_cons_of_neg apart, List.append_cons before,
      List.append_cons after]
    exact ih went (by simp [left]) (by simp [right])
  | refused among ran => cases went
  | @changed index point f g rest s t u random moved last out among ran later ih =>
    rw [List.length_cons, List.range'_succ, List.filter_cons_of_pos among]
    have old : (before ++ (point, f) :: rest)[index]? = some (point, f) := by simp [← left]
    have new : (after ++ (point, g.simplified) :: out.1)[index]? = some (point, g.simplified) := by
      simp [← right]
    refine .next old ran new ?_
    rw [List.append_cons before, List.append_cons after]
    exact ih went (by simp [left]) (by simp [right])

end Visits

variable {rate : Double} {c evolved : Candidate} {n : Nat}

theorem quantityMost (rate : Double) (size : Nat) : quantity rate size ≤ size := Nat.min_le_left _ _

theorem evolveWithCases
    (ran : ((c.evolveWith step rate).run s).run random = (((evolved, .ok n), t), last)) :
    n = quantity rate c.size ∧ (n = 0 ∧ evolved = c ∧ t = s ∧ last = random ∨
      n ≠ 0 ∧ ∃ offsets moved entries, (drawOffsets n c.size).run random = (offsets, moved) ∧
        evolved = unscored { c with entries := entries } ∧
        Visits step (chooseAt (List.range c.size) offsets) 0 c.entries s moved (entries, .ok ()) t
          last) := by
  simp only [evolveWith] at ran
  split at ran
  · rename_i none
    cases ran
    exact ⟨none.symm, .inl ⟨rfl, rfl, rfl, rfl⟩⟩
  · rename_i some
    rw [evolvingBind, evolvingLift] at ran
    rcases drawn : (drawOffsets (quantity rate c.size) c.size).run random with ⟨offsets, moved⟩
    rw [drawn] at ran
    dsimp only at ran
    rw [evolvingBind] at ran
    rcases went : ((evolveEntries step (chooseAt (List.range c.size) offsets) 0 c.entries).run
      s).run moved with ⟨⟨⟨entries, _ | _⟩, final⟩, after⟩
    · rw [went] at ran
      cases ran
    · rw [went] at ran
      cases ran
      exact ⟨rfl, .inr ⟨some, offsets, moved, entries, drawn, rfl, evolveEntriesSource went⟩⟩

-- for any step at all: `evolve` has the one that a strategy makes of `Formula.evolve`
theorem evolveShare
    (ran : ((c.evolveWith step rate).run s).run random = (((evolved, .ok n), t), last)) :
    let share := rate.clamp .zero .one * Double.ofNat c.size
    n = min c.size (if share.isFinite then ⌊share.value + 1 / 2⌋₊ else 0) ∧
      evolved.entries.map Prod.fst = c.entries.map Prod.fst ∧
      (n = 0 → evolved = c ∧ t = s ∧ last = random) ∧ (n ≠ 0 → evolved.Unscored) ∧
      ∃ chosen offsets moved, (drawOffsets n c.size).run random = (offsets, moved) ∧
        chosen.Perm (chooseAt (List.range c.size) offsets) ∧ chosen.length = n ∧
        chosen.Pairwise (· < ·) ∧
        HandedOver step c.entries evolved.entries chosen s moved t last ∧
        ∀ index, index ∉ chosen → evolved.entries[index]? = c.entries[index]? := by
  intro share
  have amount : quantity rate c.size =
      min c.size (if share.isFinite then ⌊share.value + 1 / 2⌋₊ else 0) := by
    rw [quantity, Double.roundToNatFloor]
  obtain ⟨size, ⟨rfl, rfl, rfl, rfl⟩ | ⟨some, offsets, moved, entries, drawn, rfl, visits⟩⟩ :=
    evolveWithCases ran
  · refine ⟨size.trans amount, rfl, fun _ => ⟨rfl, rfl, rfl⟩, fun some => absurd rfl some, [], [], _,
      rfl, ?_, rfl, .nil, .done _ _, fun _ _ => rfl⟩
    cases List.range evolved.size <;> exact .refl _
  · have length : offsets.length = n := by
      have drawnLength := drawOffsetsLength n c.size random
      rwa [drawn] at drawnLength
    have most : n ≤ c.size := size ▸ quantityMost rate c.size
    obtain ⟨ordered, many, perm⟩ := drawnInOrder most length
    refine ⟨size.trans amount, visits.points, fun none => absurd none some, fun _ => ⟨rfl, rfl⟩, _,
      offsets, moved, drawn, perm, many, ordered, ?_, fun index apart => ?_⟩
    · have start : ([] : List Entry).length = 0 := rfl
      have handed := visits.handedOver rfl start start
      rwa [List.nil_append, List.nil_append, ← List.range_eq_range'] at handed
    · refine visits.elsewhere index ?_
      rwa [Nat.zero_add, ← perm.mem_iff]

end

/-! A half counts as a whole entry, and a rate that is not a number as none. -/

example : quantity ⟨0x3fe0000000000000⟩ 5 = 3 := by decide +kernel

example : quantity .nan 5 = 0 := by decide +kernel

/-- Five entries, two of which could be folded. -/
def quintet : Candidate :=
  ⟨[(⟨"adce", .bool⟩, .literal (.bool true)),
    (⟨"dce", .bool⟩, .boolean .bool .or (.literal (.bool true)) (.literal (.bool false))),
    (⟨"gvn", .bool⟩, .literal (.bool false)),
    (⟨"licm", .bool⟩, .boolean .int .lt (.literal (.int 1)) (.literal (.int 2))),
    (⟨"~licm.0", .int⟩, .literal (.int 3))], .two, 4⟩

-- the strategy counts how often it is asked, which is once for each entry that it is given
theorem evolveShareHalf : ∃ evolved last,
    ((quintet.evolve Strategy.flipping FeatureSet.empty.source .default ⟨0x3fe0000000000000⟩).run
      0).run ⟨4⟩ = (((evolved, .ok 3), 3), last) ∧ evolved.Unscored ∧
    evolved.entries.map Prod.fst = quintet.entries.map Prod.fst ∧
    ∃ chosen : List Nat, chosen.length = 3 ∧ chosen.Pairwise (· < ·) ∧
      ∀ index, index ∉ chosen → evolved.entries[index]? = quintet.entries[index]? := by
  let run := ((quintet.evolve Strategy.flipping FeatureSet.empty.source .default
    ⟨0x3fe0000000000000⟩).run 0).run ⟨4⟩
  have told : run.1.1.2 = .ok 3 := by decide +kernel
  have asked : run.1.2 = 3 := by decide +kernel
  have ran : run = (((run.1.1.1, .ok 3), 3), run.2) :=
    Prod.ext (Prod.ext (Prod.ext rfl told) asked) rfl
  obtain ⟨_, points, _, unscored, chosen, _, _, _, _, many, ordered, _, others⟩ := evolveShare ran
  exact ⟨_, _, ran, unscored (by decide), points, chosen, many, ordered, others⟩

end PassTuner.Candidate

import PassTuner.Proofs.Oracle.Steps

/-! The slots of a barrier with overlapping calls.

Every step takes a slot for a new call, leaves all slots where they are, or gives one back. So the
counter is the number of slots held, each call has had one, and the slot of a call is held until
it is given back, which happens once. -/
namespace PassTuner.Barrier

def Stage.isRunning : Stage → Bool
  | .running => true
  | .ended _ | .sent _ | .gone _ => false

theorem Stage.runningHolds (stage : Stage) (running : stage.isRunning) : stage.holdsSlot := by
  cases stage with
  | running => rfl
  | ended ending => contradiction
  | sent ending => contradiction
  | gone ending => contradiction

namespace Schedule

variable {barrier : Barrier} {s t : Schedule}

/-- The number of slots held for calls among these, by their callers and by their workers. -/
def slots (s : Schedule) (among : Nat → Bool) : Nat :=
  s.calls.zipIdx.countP (fun place => place.1.holdsSlot && among place.2) +
    s.workers.countP fun w => w.stage.holdsSlot && among w.call

theorem countSet {α : Type} (p : α → Bool) {xs : List α} {i : Nat} {old : α} (new : α)
    (found : xs[i]? = some old) :
    (xs.set i new).countP p + (if p old then 1 else 0) =
      xs.countP p + if p new then 1 else 0 := by
  induction xs generalizing i with
  | nil => contradiction
  | cons x rest ih =>
    cases i with
    | zero =>
      cases found
      simp only [List.set_cons_zero, List.countP_cons]
      omega
    | succ i =>
      have others := ih found
      simp only [List.set_cons_succ, List.countP_cons]
      omega

theorem zipIdxSet {α : Type} (xs : List α) (i : Nat) (x : α) :
    (xs.set i x).zipIdx = xs.zipIdx.set i (x, i) := by
  refine List.ext_getElem? fun j => ?_
  by_cases same : i = j
  · subst same
    simp [List.getElem?_set]
  · simp [same]

theorem slotsMoved {call : Nat} {old new : Caller} (t : Schedule) (found : s.calls[call]? = some old)
    (calls : t.calls = s.calls.set call new) (workers : t.workers = s.workers)
    (among : Nat → Bool) :
    t.slots among + (if old.holdsSlot && among call then 1 else 0) =
      s.slots among + if new.holdsSlot && among call then 1 else 0 := by
  have place : s.calls.zipIdx[call]? = some (old, call) := by simp [found]
  have change := countSet (fun place => place.1.holdsSlot && among place.2) (new, call) place
  simp only [slots, calls, workers, zipIdxSet]
  dsimp only at change
  omega

theorem slotsStaged {place : Nat} {old new : Worker} (t : Schedule)
    (found : s.workers[place]? = some old)
    (calls : t.calls = s.calls) (workers : t.workers = s.workers.set place new)
    (among : Nat → Bool) :
    t.slots among + (if old.stage.holdsSlot && among old.call then 1 else 0) =
      s.slots among + if new.stage.holdsSlot && among new.call then 1 else 0 := by
  have change := countSet (fun w => w.stage.holdsSlot && among w.call) new found
  simp only [slots, calls, workers]
  omega

theorem slotsEntered (s : Schedule) (among : Nat → Bool) :
    s.entered.slots among = s.slots among + if among s.calls.length then 1 else 0 := by
  simp only [slots, entered, List.zipIdx_append, List.countP_append, List.zipIdx_singleton,
    List.countP_singleton, Caller.holdsSlot, Nat.zero_add, Bool.true_and]
  omega

/-- The slot goes from the caller to the worker. -/
theorem slotsStarted {call : Nat} (found : s.calls[call]? = some .accepted)
    (among : Nat → Bool) : (s.started call).slots among = s.slots among := by
  let waiting := s.moved call (.waiting s.channels.length)
  have left : waiting.slots among + (if among call then 1 else 0) = s.slots among := by
    simpa [Caller.holdsSlot] using slotsMoved waiting found rfl rfl among
  have taken : (s.started call).slots among =
      waiting.slots among + if among call then 1 else 0 := by
    simp only [waiting, slots, moved, started, List.countP_append, List.countP_singleton,
      Nat.add_assoc]
    rfl
  omega

/-- What a step does to the slots: one more is taken, all stay, or one is given back. -/
inductive Shift (s : Schedule) : Event → Schedule → Prop where
  | taken {t : Schedule} (length : t.calls.length = s.calls.length + 1)
      (counter : t.counter = s.counter + 1) (released : t.released = s.released)
      (slots : ∀ among, t.slots among = s.slots among + if among s.calls.length then 1 else 0) :
      Shift s .enter t
  | kept {t : Schedule} {event : Event} (length : t.calls.length = s.calls.length)
      (counter : t.counter = s.counter) (released : t.released = s.released)
      (slots : ∀ among, t.slots among = s.slots among) : Shift s event t
  | given {t : Schedule} {event : Event} (call : Nat) (length : t.calls.length = s.calls.length)
      (counter : t.counter = s.counter - 1) (released : t.released = s.released ++ [call])
      (slots : ∀ among, t.slots among + (if among call then 1 else 0) = s.slots among) :
      Shift s event t

theorem keptMoved {event : Event} {call : Nat} {old new : Caller}
    (found : s.calls[call]? = some old) (calls : t.calls = s.calls.set call new)
    (workers : t.workers = s.workers) (alike : new.holdsSlot = old.holdsSlot)
    (counter : t.counter = s.counter) (released : t.released = s.released) :
    Shift s event t := by
  refine .kept (by simp [calls]) counter released fun among => ?_
  have change := slotsMoved t found calls workers among
  rw [alike] at change
  omega

theorem keptStaged {event : Event} {place : Nat} {old new : Worker}
    (found : s.workers[place]? = some old) (calls : t.calls = s.calls)
    (workers : t.workers = s.workers.set place new) (call : new.call = old.call)
    (alike : new.stage.holdsSlot = old.stage.holdsSlot)
    (counter : t.counter = s.counter) (released : t.released = s.released) :
    Shift s event t := by
  refine .kept (by rw [calls]) counter released fun among => ?_
  have change := slotsStaged t found calls workers among
  rw [alike, call] at change
  omega

theorem givenMoved {event : Event} {call : Nat} {old new : Caller}
    (found : s.calls[call]? = some old) (held : old.holdsSlot) (free : new.holdsSlot = false) :
    Shift s event ((s.release call).moved call new) := by
  refine .given call (by simp [moved, release]) rfl rfl fun among => ?_
  have change := slotsMoved ((s.release call).moved call new) found rfl rfl among
  rw [held, free] at change
  simpa using change

theorem givenStaged {event : Event} {place : Nat} {old new : Worker}
    (found : s.workers[place]? = some old) (call : new.call = old.call)
    (held : old.stage.holdsSlot) (free : new.stage.holdsSlot = false) :
    Shift s event ((s.release old.call).staged place new) := by
  refine .given old.call rfl rfl rfl fun among => ?_
  have change := slotsStaged ((s.release old.call).staged place new) found rfl rfl among
  rw [held, free, call] at change
  simpa using change

theorem Step.shift {event : Event} (can : Step barrier s event t) : Shift s event t := by
  cases can with
  | enter => exact .taken (by simp [entered]) rfl rfl (slotsEntered s)
  | refuse found _ => exact keptMoved found rfl rfl rfl rfl rfl
  | accept found _ => exact keptMoved found rfl rfl rfl rfl rfl
  | start found => exact .kept (by simp [started]) rfl rfl (slotsStarted found)
  | startFails found => exact keptMoved found rfl rfl rfl rfl rfl
  | giveBackRefused found => exact givenMoved found rfl rfl
  | giveBackUnstarted found => exact givenMoved found rfl rfl
  | receive found _ => exact keptMoved found rfl rfl rfl rfl rfl
  | timeOut found => exact keptMoved found rfl rfl rfl rfl rfl
  | disconnect found _ _ => exact keptMoved found rfl rfl rfl rfl rfl
  | finish found => exact keptStaged found rfl rfl rfl rfl rfl rfl
  | send found _ => exact keptStaged found rfl rfl rfl rfl rfl rfl
  | leave found => exact givenStaged found rfl rfl rfl

/-- Every slot that is held is counted, and a call has had one slot, which is held or was given
back once. -/
structure Balanced (s : Schedule) : Prop where
  counted : s.counter = s.slots fun _ => true
  once : ∀ call, s.released.count call + s.slots (· == call) =
    if call < s.calls.length then 1 else 0

theorem initialBalanced : initial.Balanced := ⟨rfl, fun _ => rfl⟩

theorem Balanced.shift {event : Event} (balanced : s.Balanced) (shift : Shift s event t) :
    t.Balanced := by
  obtain ⟨counted, once⟩ := balanced
  cases shift with
  | taken length counter released slots =>
    refine ⟨by rw [counter, counted, slots, if_pos rfl], fun call => ?_⟩
    have before := once call
    rw [released, slots, length]
    simp only [beq_iff_eq] at before ⊢
    split at before <;> split <;> split <;> omega
  | kept length counter released slots =>
    exact ⟨by rw [counter, counted, slots], fun call => by rw [released, slots, length, once]⟩
  | given call length counter released slots =>
    refine ⟨?_, fun other => ?_⟩
    · have before := slots fun _ => true
      rw [if_pos rfl, ← counted] at before
      omega
    · have before := once other
      rw [← slots, ← length] at before
      rw [released, List.count_append, List.count_singleton]
      omega

theorem Shift.less {event : Event} (shift : Shift s event t) (entry : event ≠ .enter)
    (among : Nat → Bool) : t.slots among ≤ s.slots among := by
  cases shift with
  | taken => contradiction
  | kept _ _ _ slots => exact Nat.le_of_eq (slots among)
  | given _ _ _ _ slots => exact Nat.le.intro (slots among)

/-! The limit.

Of the calls that hold slots, those counted before a given call become fewer only. An accepted
call has found fewer than the limit. -/

/-- What a caller knows of the slots held for earlier calls. -/
def Fits (barrier : Barrier) (held : Nat) : Caller → Prop
  | .counted before => held ≤ before
  | .refused before => held ≤ before ∧ barrier.maxRunning ≤ before
  | .accepted | .unstarted _ => held < barrier.maxRunning
  | .waiting _ | .answered _ => True

theorem Fits.less {held fewer : Nat} {caller : Caller} (less : fewer ≤ held)
    (fits : Fits barrier held caller) : Fits barrier fewer caller := by
  cases caller with
  | counted before => exact Nat.le_trans less fits
  | refused before => exact ⟨Nat.le_trans less fits.1, fits.2⟩
  | accepted => exact Nat.lt_of_le_of_lt less fits
  | unstarted reason => exact Nat.lt_of_le_of_lt less fits
  | waiting channel => trivial
  | answered cost => trivial

structure Ranked (barrier : Barrier) (s : Schedule) : Prop where
  callers : ∀ call caller, s.calls[call]? = some caller →
    Fits barrier (s.slots (· < call)) caller
  workers : ∀ w ∈ s.workers, w.stage.holdsSlot → s.slots (· < w.call) < barrier.maxRunning

theorem Ranked.called {call : Nat} {new : Caller} (ranked : Ranked barrier s)
    (less : ∀ among, t.slots among ≤ s.slots among)
    (fits : Fits barrier (s.slots (· < call)) new) (other : Nat) (caller : Caller)
    (found : (s.calls.set call new)[other]? = some caller) :
    Fits barrier (t.slots (· < other)) caller := by
  rcases foundSet found with ⟨rfl, rfl⟩ | ⟨_, before⟩
  · exact fits.less (less _)
  · exact (ranked.callers other caller before).less (less _)

theorem Ranked.moved {call : Nat} {new : Caller} (ranked : Ranked barrier s)
    (calls : t.calls = s.calls.set call new) (workers : t.workers = s.workers)
    (less : ∀ among, t.slots among ≤ s.slots among)
    (fits : Fits barrier (s.slots (· < call)) new) : Ranked barrier t :=
  ⟨calls ▸ ranked.called less fits, fun w mem holds =>
    Nat.lt_of_le_of_lt (less _) (ranked.workers w (workers ▸ mem) holds)⟩

theorem Ranked.staged {place : Nat} {old new : Worker} (ranked : Ranked barrier s)
    (found : s.workers[place]? = some old) (calls : t.calls = s.calls)
    (workers : t.workers = s.workers.set place new) (call : new.call = old.call)
    (held : old.stage.holdsSlot) (less : ∀ among, t.slots among ≤ s.slots among) :
    Ranked barrier t := by
  constructor
  · intro other caller found
    exact (ranked.callers other caller (calls ▸ found)).less (less _)
  · intro w mem holds
    rw [workers] at mem
    rcases List.mem_or_eq_of_mem_set mem with inside | rfl
    · exact Nat.lt_of_le_of_lt (less _) (ranked.workers w inside holds)
    · rw [call]
      exact Nat.lt_of_le_of_lt (less _) (ranked.workers old (List.mem_of_getElem? found) held)

theorem heldKnown (balanced : s.Balanced) {w : Worker} (mem : w ∈ s.workers)
    (holds : w.stage.holdsSlot) : w.call < s.calls.length := by
  have one : 0 < s.workers.countP fun v => v.stage.holdsSlot && v.call == w.call :=
    List.countP_pos_iff.mpr ⟨w, mem, by simp [holds]⟩
  have once := balanced.once w.call
  split at once
  · assumption
  · rw [slots] at once
    omega

theorem slotsLess {among more : Nat → Bool} (wider : ∀ call, among call → more call) :
    s.slots among ≤ s.slots more := by
  refine Nat.add_le_add (List.countP_mono_left ?_) (List.countP_mono_left ?_)
  · intro place _ held
    exact Bool.and_eq_true_iff.mpr ((Bool.and_eq_true_iff.mp held).imp_right (wider _))
  · intro w _ held
    exact Bool.and_eq_true_iff.mpr ((Bool.and_eq_true_iff.mp held).imp_right (wider _))

theorem Ranked.step {event : Event} (ranked : Ranked barrier s) (balanced : s.Balanced)
    (can : Step barrier s event t) : Ranked barrier t := by
  have less (entry : event ≠ .enter) (among : Nat → Bool) : t.slots among ≤ s.slots among :=
    can.shift.less entry among
  cases can with
  | enter =>
    have same {call : Nat} (known : call ≤ s.calls.length) :
        s.entered.slots (· < call) = s.slots (· < call) := by
      rw [slotsEntered]
      simpa using known
    constructor
    · intro call caller found
      rcases foundEntered found with before | ⟨rfl, rfl⟩
      · rw [same (Nat.le_of_lt (List.getElem?_eq_some_iff.mp before).1)]
        exact ranked.callers call caller before
      · -- the new caller has found the counter, which counts all slots
        rw [same (Nat.le_refl _), balanced.counted]
        exact slotsLess fun _ _ => rfl
    · intro w mem holds
      rw [same (Nat.le_of_lt (heldKnown balanced mem holds))]
      exact ranked.workers w mem holds
  | refuse found full =>
    exact ranked.moved rfl rfl (less nofun) ⟨ranked.callers _ _ found, full⟩
  | accept found room =>
    exact ranked.moved rfl rfl (less nofun) (Nat.lt_of_le_of_lt (ranked.callers _ _ found) room)
  | @start call found =>
    have room : s.slots (· < call) < barrier.maxRunning := ranked.callers call .accepted found
    refine ⟨ranked.called (less nofun) trivial, fun w mem holds => ?_⟩
    refine Nat.lt_of_le_of_lt (less nofun _) ?_
    rcases List.mem_append.mp mem with inside | new
    · exact ranked.workers w inside holds
    · cases List.mem_singleton.mp new
      exact room
  | startFails found =>
    exact ranked.moved rfl rfl (less nofun) (ranked.callers _ .accepted found)
  | giveBackRefused found => exact ranked.moved rfl rfl (less nofun) trivial
  | giveBackUnstarted found => exact ranked.moved rfl rfl (less nofun) trivial
  | receive found _ => exact ranked.moved rfl rfl (less nofun) trivial
  | timeOut found => exact ranked.moved rfl rfl (less nofun) trivial
  | disconnect found _ _ => exact ranked.moved rfl rfl (less nofun) trivial
  | finish found => exact ranked.staged found rfl rfl rfl rfl (less nofun)
  | send found _ => exact ranked.staged found rfl rfl rfl rfl (less nofun)
  | leave found => exact ranked.staged found rfl rfl rfl rfl (less nofun)

theorem initialRanked : Ranked barrier initial := ⟨nofun, nofun⟩

theorem countCover {α : Type} {p q r : α → Bool} (cover : ∀ x, p x → q x ∨ r x) (xs : List α) :
    xs.countP p ≤ xs.countP q + xs.countP r := by
  induction xs with
  | nil => exact Nat.le_refl 0
  | cons x rest ih =>
    have here := cover x
    simp only [List.countP_cons]
    split <;> split <;> split <;> simp_all <;> omega

/-- The induction is on calls in the order of their counting. The last that has a worker found
fewer than the limit, and all others before it. -/
theorem workersBelow (balanced : s.Balanced) (ranked : Ranked barrier s) (call : Nat) :
    s.workers.countP (fun w => w.stage.holdsSlot && w.call < call) ≤ barrier.maxRunning := by
  induction call with
  | zero => simp
  | succ call ih =>
    have upTo (w : Worker) (below : w.stage.holdsSlot && w.call < call + 1) :
        w.stage.holdsSlot && w.call < call ∨ w.stage.holdsSlot && w.call == call := by
      simp only [Bool.and_eq_true, decide_eq_true_eq, beq_iff_eq] at below ⊢
      exact (Nat.lt_succ_iff_lt_or_eq.mp below.2).imp (⟨below.1, ·⟩) (⟨below.1, ·⟩)
    have cover := countCover upTo s.workers
    have one : s.workers.countP (fun w => w.stage.holdsSlot && w.call == call) ≤ 1 := by
      have once := balanced.once call
      rw [slots] at once
      split at once <;> omega
    by_cases working : ∃ w ∈ s.workers, w.stage.holdsSlot && w.call == call
    · obtain ⟨w, mem, here⟩ := working
      simp only [Bool.and_eq_true, beq_iff_eq] at here
      obtain ⟨holds, rfl⟩ := here
      have room := ranked.workers w mem holds
      rw [slots] at room
      omega
    · have none : s.workers.countP (fun w => w.stage.holdsSlot && w.call == call) = 0 :=
        List.countP_eq_zero.mpr fun w mem here => working ⟨w, mem, here⟩
      omega

def jobsRunning (s : Schedule) : Nat := s.workers.countP fun w => w.stage.isRunning

theorem jobsBounded (balanced : s.Balanced) (ranked : Ranked barrier s) :
    s.jobsRunning ≤ barrier.maxRunning := by
  refine Nat.le_trans (List.countP_mono_left fun w mem running => ?_)
    (workersBelow balanced ranked s.calls.length)
  have holds := w.stage.runningHolds running
  simpa [holds] using heldKnown balanced mem holds

end Schedule

end PassTuner.Barrier

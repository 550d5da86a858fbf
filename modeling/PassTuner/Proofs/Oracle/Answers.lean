import PassTuner.Proofs.Oracle.Slots

/-! What the callers of overlapping calls are told.

Each worker has a channel of its own, at whose other end waits the caller that started it, if it
still does. So what a caller takes from its channel is what its own job came to, and what is sent
after the caller has left lies in a channel that nobody reads. -/
namespace PassTuner.Barrier

/-- What the job came to, once it has come to its end. -/
def Stage.ending? : Stage → Option Ending
  | .running => none
  | .ended ending | .sent ending | .gone ending => some ending

/-- What has been sent. -/
def Stage.messages : Stage → List Ending
  | .running | .ended _ => []
  | .sent ending | .gone ending => [ending]

theorem Stage.messageEnding {stage : Stage} {ending : Ending} {rest : List Ending}
    (sent : stage.messages = ending :: rest) : stage.ending? = some ending := by
  cases stage with
  | running => contradiction
  | ended other => contradiction
  | sent other => cases sent; rfl
  | gone other => cases sent; rfl

namespace Schedule

variable {barrier : Barrier} {s t : Schedule} {call channel place : Nat}

/-- The calls that have a worker, in the order of their workers. -/
def working (s : Schedule) : List Nat := s.workers.map Worker.call

/-- How callers and workers are connected. -/
structure Wired (s : Schedule) : Prop where
  channels : s.channels.length = s.workers.length
  own : ∀ (place : Nat) (w : Worker), s.workers[place]? = some w → w.channel = place
  waits : ∀ (call channel : Nat), s.calls[call]? = some (.waiting channel) →
    ∃ w : Worker, s.workers[channel]? = some w ∧ w.call = call ∧
      s.channels[channel]? = some w.stage.messages
  fresh : ∀ (call : Nat) (caller : Caller), s.calls[call]? = some caller → caller.holdsSlot →
    call ∉ s.working
  single : s.working.Nodup
  known : ∀ call ∈ s.working, call < s.calls.length

/-- No two callers wait at one channel. -/
theorem Wired.oneWaits {other : Nat} (wired : s.Wired)
    (left : s.calls[call]? = some (.waiting channel))
    (right : s.calls[other]? = some (.waiting channel)) : call = other := by
  obtain ⟨w, placed, own, _⟩ := wired.waits call channel left
  obtain ⟨v, placed', own', _⟩ := wired.waits other channel right
  cases placed.symm.trans placed'
  exact own.symm.trans own'

theorem initialWired : initial.Wired :=
  ⟨rfl, nofun, nofun, nofun, List.nodup_nil, nofun⟩

/-- A caller moves on that does not come to wait, and perhaps takes from its channel. -/
theorem Wired.moved {old new : Caller} (wired : s.Wired) (found : s.calls[call]? = some old)
    (calls : t.calls = s.calls.set call new) (workers : t.workers = s.workers)
    (stays : ∀ channel, new ≠ .waiting channel) (holds : new.holdsSlot → old.holdsSlot)
    (length : t.channels.length = s.channels.length)
    (others : ∀ other channel, other ≠ call → s.calls[other]? = some (.waiting channel) →
      t.channels[channel]? = s.channels[channel]?) : t.Wired := by
  have same : t.working = s.working := by rw [working, workers, working]
  refine ⟨by rw [length, workers, wired.channels], workers ▸ wired.own, ?_, ?_,
    same ▸ wired.single, by simpa [same, calls] using wired.known⟩
  · intro other channel waiting
    rw [calls] at waiting
    rcases foundSet waiting with ⟨_, same⟩ | ⟨apart, before⟩
    · exact absurd same.symm (stays channel)
    · rw [workers, others other channel apart before]
      exact wired.waits other channel before
  · intro other caller moved held
    rw [calls] at moved
    rw [same]
    rcases foundSet moved with ⟨rfl, rfl⟩ | ⟨_, before⟩
    · exact wired.fresh other old found (holds held)
    · exact wired.fresh other caller before held

theorem workingStaged {old new : Worker} (found : s.workers[place]? = some old)
    (workers : t.workers = s.workers.set place new) (call : new.call = old.call) :
    t.working = s.working := by
  refine List.ext_getElem? fun other => ?_
  simp only [working, workers, List.getElem?_map, List.getElem?_set]
  split
  · rename_i equal
    subst equal
    obtain ⟨inside, same⟩ := List.getElem?_eq_some_iff.mp found
    simp [inside, same, call]
  · rfl

/-- A worker moves on, and perhaps sends. -/
theorem Wired.staged {old new : Worker} (wired : s.Wired) (found : s.workers[place]? = some old)
    (calls : t.calls = s.calls) (workers : t.workers = s.workers.set place new)
    (call : new.call = old.call) (channel : new.channel = old.channel)
    (length : t.channels.length = s.channels.length)
    (others : ∀ other, other ≠ place → t.channels[other]? = s.channels[other]?)
    (here : s.channels[place]? = some old.stage.messages →
      t.channels[place]? = some new.stage.messages) : t.Wired := by
  have inside : place < s.workers.length := (List.getElem?_eq_some_iff.mp found).1
  have same := workingStaged found workers call
  refine ⟨by rw [length, workers, List.length_set, wired.channels], ?_, ?_,
    calls ▸ same ▸ wired.fresh, same ▸ wired.single, calls ▸ same ▸ wired.known⟩
  · intro other w placed
    rw [workers, List.getElem?_set] at placed
    split at placed
    · rename_i equal
      cases placed
      exact equal ▸ channel.trans (wired.own place old found)
    · exact wired.own other w placed
  · intro caller other waiting
    obtain ⟨w, placed, own, queue⟩ := wired.waits caller other (calls ▸ waiting)
    by_cases equal : other = place
    · subst equal
      cases found.symm.trans placed
      exact ⟨new, by rw [workers, List.getElem?_set_self inside], call.trans own, here queue⟩
    · refine ⟨w, ?_, own, by rw [others other equal, queue]⟩
      rw [workers, List.getElem?_set_ne (Ne.symm equal), placed]

theorem Wired.entered (wired : s.Wired) : s.entered.Wired := by
  refine ⟨wired.channels, wired.own, ?_, ?_, wired.single, fun call mem => ?_⟩
  · intro call channel waiting
    rcases foundEntered waiting with before | ⟨_, impossible⟩
    · exact wired.waits call channel before
    · contradiction
  · intro call caller found holds
    rcases foundEntered found with before | ⟨rfl, _⟩
    · exact wired.fresh call caller before holds
    · exact fun again => Nat.lt_irrefl _ (wired.known _ again)
  · simpa [Schedule.entered] using Nat.lt_succ_of_lt (wired.known call mem)

theorem Wired.started (wired : s.Wired) (found : s.calls[call]? = some .accepted) :
    (s.started call).Wired := by
  have fresh := wired.fresh call .accepted found rfl
  have inside : call < s.calls.length := (List.getElem?_eq_some_iff.mp found).1
  have working : (s.started call).working = s.working ++ [call] := by
    simp [Schedule.working, Schedule.started]
  refine ⟨by simp [Schedule.started, wired.channels], ?_, ?_, ?_, ?_, ?_⟩
  · intro place w placed
    rw [Schedule.started, List.getElem?_append] at placed
    split at placed
    · exact wired.own place w placed
    · rw [List.getElem?_singleton] at placed
      split at placed <;> cases placed
      have := wired.channels
      dsimp only
      omega
  · intro other channel waiting
    rcases foundSet waiting with ⟨rfl, same⟩ | ⟨apart, before⟩
    · cases same
      refine ⟨⟨other, s.channels.length, .running⟩, ?_, rfl, ?_⟩
      · simp [Schedule.started, wired.channels]
      · simp [Schedule.started, Stage.messages]
    · obtain ⟨w, placed, own, queue⟩ := wired.waits other channel before
      refine ⟨w, ?_, own, ?_⟩
      · exact List.getElem?_append_left (List.getElem?_eq_some_iff.mp placed).1 ▸ placed
      · exact List.getElem?_append_left (List.getElem?_eq_some_iff.mp queue).1 ▸ queue
  · intro other caller moved holds
    rw [working]
    rcases foundSet moved with ⟨rfl, rfl⟩ | ⟨apart, before⟩
    · contradiction
    · have := wired.fresh other caller before holds
      simp [this, apart]
  · rw [working, List.nodup_append]
    exact ⟨wired.single, List.pairwise_singleton _ _, fun a mem b here => by
      rintro rfl
      exact fresh (List.mem_singleton.mp here ▸ mem)⟩
  · intro other mem
    rw [working] at mem
    rw [Schedule.started, List.length_set]
    rcases List.mem_append.mp mem with before | here
    · exact wired.known other before
    · exact List.mem_singleton.mp here ▸ inside

theorem Wired.step {event : Event} (wired : s.Wired) (can : Step barrier s event t) :
    t.Wired := by
  cases can with
  | enter => exact wired.entered
  | refuse found _ => exact wired.moved found rfl rfl nofun (fun _ => rfl) rfl fun _ _ _ _ => rfl
  | accept found _ => exact wired.moved found rfl rfl nofun (fun _ => rfl) rfl fun _ _ _ _ => rfl
  | start found => exact wired.started found
  | startFails found =>
    exact wired.moved found rfl rfl nofun (fun _ => rfl) rfl fun _ _ _ _ => rfl
  | giveBackRefused found => exact wired.moved found rfl rfl nofun nofun rfl fun _ _ _ _ => rfl
  | giveBackUnstarted found => exact wired.moved found rfl rfl nofun nofun rfl fun _ _ _ _ => rfl
  | receive found _ =>
    refine wired.moved found rfl rfl nofun nofun (List.length_set ..) fun other _ apart before => ?_
    refine List.getElem?_set_ne fun same => apart ?_
    exact wired.oneWaits before (same ▸ found)
  | timeOut found => exact wired.moved found rfl rfl nofun nofun rfl fun _ _ _ _ => rfl
  | disconnect found _ _ => exact wired.moved found rfl rfl nofun nofun rfl fun _ _ _ _ => rfl
  | finish found => exact wired.staged found rfl rfl rfl rfl rfl (fun _ _ => rfl) id
  | send found queue =>
    cases wired.own _ _ found
    refine wired.staged found rfl rfl rfl rfl (List.length_set ..)
      (fun other apart => List.getElem?_set_ne (Ne.symm apart)) fun unsent => ?_
    cases queue.symm.trans unsent
    exact List.getElem?_set_self (List.getElem?_eq_some_iff.mp unsent).1
  | leave found => exact wired.staged found rfl rfl rfl rfl rfl (fun _ _ => rfl) id

/-! Answers. -/

/-- What the caller of a call may be told: that it was refused or got no thread, and then the call
has no worker, or that time was up or what the job came to, and then it has one. -/
inductive Told (barrier : Barrier) (s : Schedule) (call : Nat) : Cost → Prop where
  | refused {before : Nat} (full : barrier.maxRunning ≤ before) (idle : call ∉ s.working) :
      Told barrier s call (.error (.saturated before))
  | unstarted {reason : String} (idle : call ∉ s.working) :
      Told barrier s call (.error (.io reason))
  | timedOut (working : call ∈ s.working) :
      Told barrier s call (.error (.timeout barrier.timeout))
  | result {w : Worker} {ending : Ending} (mem : w ∈ s.workers) (own : w.call = call)
      (ended : w.stage.ending? = some ending) : Told barrier s call (barrier.told ending)

def Answered (barrier : Barrier) (s : Schedule) : Prop :=
  ∀ (call : Nat) (cost : Cost), s.calls[call]? = some (.answered cost) → Told barrier s call cost

theorem Told.kept {cost : Cost} (told : Told barrier s call cost)
    (working : call ∈ t.working ↔ call ∈ s.working)
    (workers : ∀ w ∈ s.workers, w.call = call → ∃ v ∈ t.workers, v.call = call ∧
      ∀ ending, w.stage.ending? = some ending → v.stage.ending? = some ending) :
    Told barrier t call cost := by
  cases told with
  | refused full idle => exact .refused full (mt working.mp idle)
  | unstarted idle => exact .unstarted (mt working.mp idle)
  | timedOut mem => exact .timedOut (working.mpr mem)
  | result mem own ended =>
    obtain ⟨v, inside, same, later⟩ := workers _ mem own
    exact .result inside same (later _ ended)

theorem Told.sameWorkers {cost : Cost} (told : Told barrier s call cost)
    (workers : t.workers = s.workers) : Told barrier t call cost := by
  refine told.kept (by rw [working, workers, working]) fun w mem own => ?_
  exact ⟨w, workers ▸ mem, own, fun _ => id⟩

theorem Answered.moved {new : Caller} (answered : Answered barrier s)
    (calls : t.calls = s.calls.set call new) (workers : t.workers = s.workers)
    (told : ∀ cost, new = .answered cost → Told barrier s call cost) : Answered barrier t := by
  intro other cost found
  rw [calls] at found
  rcases foundSet found with ⟨rfl, same⟩ | ⟨_, before⟩
  · exact (told cost same.symm).sameWorkers workers
  · exact (answered other cost before).sameWorkers workers

theorem Answered.started (answered : Answered barrier s) : Answered barrier (s.started call) := by
  intro other cost moved
  rcases foundSet moved with ⟨_, impossible⟩ | ⟨apart, before⟩
  · contradiction
  · refine (answered other cost before).kept ?_ fun w mem own => ?_
    · simp [Schedule.working, Schedule.started, apart]
    · exact ⟨w, List.mem_append_left _ mem, own, fun _ => id⟩

theorem Answered.staged {old new : Worker} (answered : Answered barrier s)
    (found : s.workers[place]? = some old) (calls : t.calls = s.calls)
    (workers : t.workers = s.workers.set place new) (call : new.call = old.call)
    (ended : ∀ ending, old.stage.ending? = some ending → new.stage.ending? = some ending) :
    Answered barrier t := by
  intro other cost moved
  refine (answered other cost (calls ▸ moved)).kept (workingStaged found workers call ▸ Iff.rfl)
    fun w mem own => ?_
  obtain ⟨index, placed⟩ := List.mem_iff_getElem?.mp mem
  by_cases same : index = place
  · subst same
    cases found.symm.trans placed
    exact ⟨new, workers ▸ List.mem_set (List.getElem?_eq_some_iff.mp found).1 new,
      call.trans own, ended⟩
  · have kept : t.workers[index]? = some w := by
      rw [workers, List.getElem?_set_ne (Ne.symm same), placed]
    exact ⟨w, List.mem_of_getElem? kept, own, fun _ => id⟩

theorem closedSent (wired : s.Wired)
    (found : s.calls[call]? = some (.waiting channel)) (closed : s.isClosed channel) :
    s.channels[channel]? ≠ some [] := by
  obtain ⟨w, placed, _, queue⟩ := wired.waits call channel found
  have left := List.all_eq_true.mp closed w (List.mem_of_getElem? placed)
  simp only [wired.own channel w placed, bne_self_eq_false, Bool.false_or, Bool.not_eq_true'] at left
  rw [queue]
  cases stage : w.stage with
  | gone ending => exact nofun
  | running => simp [stage, Stage.holdsSlot] at left
  | ended ending => simp [stage, Stage.holdsSlot] at left
  | sent ending => simp [stage, Stage.holdsSlot] at left

theorem Answered.step {event : Event} (answered : Answered barrier s) (wired : s.Wired)
    (ranked : Ranked barrier s) (can : Step barrier s event t) : Answered barrier t := by
  cases can with
  | enter =>
    intro call cost found
    rcases foundEntered found with before | ⟨_, impossible⟩
    · exact (answered call cost before).sameWorkers rfl
    · contradiction
  | refuse found _ => exact answered.moved rfl rfl nofun
  | accept found _ => exact answered.moved rfl rfl nofun
  | start found => exact answered.started
  | startFails found => exact answered.moved rfl rfl nofun
  | giveBackRefused found =>
    refine answered.moved rfl rfl fun cost same => ?_
    cases same
    exact .refused (ranked.callers _ (.refused _) found).2 (wired.fresh _ _ found rfl)
  | giveBackUnstarted found =>
    refine answered.moved rfl rfl fun cost same => ?_
    cases same
    exact .unstarted (wired.fresh _ _ found rfl)
  | receive found message =>
    refine answered.moved rfl rfl fun cost same => ?_
    cases same
    obtain ⟨w, placed, own, queue⟩ := wired.waits _ _ found
    exact .result (List.mem_of_getElem? placed) own
      (Stage.messageEnding (Option.some.inj (queue.symm.trans message)))
  | timeOut found =>
    refine answered.moved rfl rfl fun cost same => ?_
    cases same
    obtain ⟨w, placed, own, _⟩ := wired.waits _ _ found
    exact .timedOut (own ▸ List.mem_map_of_mem (List.mem_of_getElem? placed))
  | disconnect found empty closed => exact absurd empty (closedSent wired found closed)
  | finish found => exact answered.staged found rfl rfl rfl nofun
  | send found _ => exact answered.staged found rfl rfl rfl fun _ => id
  | leave found => exact answered.staged found rfl rfl rfl fun _ => id

theorem runAnswered {events : List Event} (ran : initial.run barrier events = some s) :
    s.Balanced ∧ Ranked barrier s ∧ s.Wired ∧ Answered barrier s :=
  runKeeps (P := fun s => s.Balanced ∧ Ranked barrier s ∧ s.Wired ∧ Answered barrier s)
    (fun ⟨balanced, ranked, wired, answered⟩ can => ⟨balanced.shift can.shift,
      ranked.step balanced can, wired.step can, answered.step wired ranked can⟩)
    ran ⟨initialBalanced, initialRanked, initialWired, nofun⟩

/-! No slot is lost: the threads that have to do with a call can always give its slot back, if its
job comes to an end. -/

/-- Some events lead to the slot of a call being given back. -/
def Returns (barrier : Barrier) (s : Schedule) (call : Nat) : Prop :=
  ∃ events t, s.run barrier events = some t ∧ call ∈ t.released

theorem Returns.now {event : Event} (can : Step barrier s event t) (given : call ∈ t.released) :
    Returns barrier s call :=
  ⟨[event], t, runCons can rfl, given⟩

theorem Returns.after {event : Event} (can : Step barrier s event t)
    (returns : Returns barrier t call) : Returns barrier s call := by
  obtain ⟨events, u, ran, given⟩ := returns
  exact ⟨event :: events, u, runCons can ran, given⟩

theorem sentReturns {ending : Ending}
    (found : s.workers[place]? = some ⟨call, channel, .sent ending⟩) : Returns barrier s call :=
  .now (.leave found) (List.mem_append_right _ (List.mem_singleton_self call))

theorem endedReturns {ending : Ending} (wired : s.Wired)
    (found : s.workers[place]? = some ⟨call, channel, .ended ending⟩) :
    Returns barrier s call := by
  have inside := (List.getElem?_eq_some_iff.mp found).1
  obtain rfl : channel = place := wired.own place _ found
  have queue := List.getElem?_eq_getElem (wired.channels.symm ▸ inside)
  exact .after (.send found queue) (sentReturns (List.getElem?_set_self inside))

theorem runningReturns (wired : s.Wired)
    (found : s.workers[place]? = some ⟨call, channel, .running⟩) : Returns barrier s call := by
  have inside := (List.getElem?_eq_some_iff.mp found).1
  have can : Step barrier s (.finish place (.crashed none)) _ := .finish found
  exact .after can (endedReturns (wired.step can) (List.getElem?_set_self inside))

theorem acceptedReturns (wired : s.Wired) (found : s.calls[call]? = some .accepted) :
    Returns barrier s call := by
  have can : Step barrier s (.start call) _ := .start found
  have placed : (s.started call).workers[s.workers.length]? =
      some ⟨call, s.channels.length, .running⟩ := List.getElem?_concat_length
  exact .after can (runningReturns (wired.step can) placed)

theorem callerReturns (wired : s.Wired) {caller : Caller} (found : s.calls[call]? = some caller)
    (holds : caller.holdsSlot) : Returns barrier s call := by
  have inside := (List.getElem?_eq_some_iff.mp found).1
  have given : call ∈ s.released ++ [call] :=
    List.mem_append_right _ (List.mem_singleton_self call)
  cases caller with
  | counted before =>
    by_cases full : barrier.maxRunning ≤ before
    · exact .after (.refuse found full)
        (.now (.giveBackRefused (List.getElem?_set_self inside)) given)
    · have can : Step barrier s (.check call) _ := .accept found (Nat.lt_of_not_le full)
      exact .after can (acceptedReturns (wired.step can) (List.getElem?_set_self inside))
  | refused before => exact .now (.giveBackRefused found) given
  | accepted => exact acceptedReturns wired found
  | unstarted reason => exact .now (.giveBackUnstarted found) given
  | waiting channel => contradiction
  | answered cost => contradiction

theorem slotHolder (held : 0 < s.slots (· == call)) :
    (∃ caller, s.calls[call]? = some caller ∧ caller.holdsSlot) ∨
      ∃ w ∈ s.workers, w.call = call ∧ w.stage.holdsSlot := by
  rcases Nat.add_pos_iff_pos_or_pos.mp held with callers | workers
  · obtain ⟨⟨caller, index⟩, mem, here⟩ := List.countP_pos_iff.mp callers
    simp only [Bool.and_eq_true, beq_iff_eq] at here
    obtain ⟨holds, rfl⟩ := here
    exact .inl ⟨caller, List.mem_zipIdx_iff_getElem?.mp mem, holds⟩
  · obtain ⟨w, mem, here⟩ := List.countP_pos_iff.mp workers
    simp only [Bool.and_eq_true, beq_iff_eq] at here
    exact .inr ⟨w, mem, here.2, here.1⟩

theorem slotReturns (wired : s.Wired) (held : 0 < s.slots (· == call)) :
    Returns barrier s call := by
  rcases slotHolder held with ⟨caller, found, holds⟩ | ⟨⟨_, channel, stage⟩, mem, rfl, holds⟩
  · exact callerReturns wired found holds
  · obtain ⟨place, placed⟩ := List.mem_iff_getElem?.mp mem
    cases stage with
    | running => exact runningReturns wired placed
    | ended ending => exact endedReturns wired placed
    | sent ending => exact sentReturns placed
    | gone ending => contradiction

/-! A call that has the barrier to itself. -/

def finishing (place call : Nat) (ending : Ending) : List Event :=
  [.finish place ending, .send place, .receive call, .leave place]

def attended (place call : Nat) : CallEnd → List Event
  | .returned cost => finishing place call (.returned cost)
  | .crashed message => finishing place call (.crashed message)
  | .hung => [.timeOut call]

/-- The events of a call that nothing else happens beside. -/
def alone (barrier : Barrier) (s : Schedule) (ending : CallEnd) : List Event :=
  .enter :: .check s.calls.length ::
    if barrier.maxRunning ≤ s.counter then [.giveBack s.calls.length]
    else .start s.calls.length :: attended s.workers.length s.calls.length ending

theorem finishingRun (ending : Ending) (found : s.calls[call]? = some (.waiting channel))
    (placed : s.workers[place]? = some ⟨call, channel, .running⟩)
    (empty : s.channels[channel]? = some []) :
    ∃ t, s.run barrier (finishing place call ending) = some t ∧
      t.calls[call]? = some (.answered (barrier.told ending)) ∧ t.counter = s.counter - 1 := by
  have known := (List.getElem?_eq_some_iff.mp found).1
  have inside := (List.getElem?_eq_some_iff.mp placed).1
  have wired := (List.getElem?_eq_some_iff.mp empty).1
  let ended := s.staged place ⟨call, channel, .ended ending⟩
  have endedAt : ended.workers[place]? = some ⟨call, channel, .ended ending⟩ :=
    List.getElem?_set_self inside
  let sent := (ended.filled channel [ending]).staged place ⟨call, channel, .sent ending⟩
  have sentAt : sent.workers[place]? = some ⟨call, channel, .sent ending⟩ :=
    List.getElem?_set_self (List.getElem?_eq_some_iff.mp endedAt).1
  have message : sent.channels[channel]? = some [ending] := List.getElem?_set_self wired
  exact ⟨_, runCons (.finish placed) (runCons (.send endedAt empty) (runCons
    (.receive found message) (runCons (.leave sentAt) rfl))), List.getElem?_set_self known, rfl⟩

/-- A call that has the barrier to itself goes as calls go that are made one after another. -/
theorem callAlone {σ : Type} (barrier : Barrier) (s : Schedule) (job : StateM σ CallEnd)
    (state : σ) :
    let after := (barrier.call job).run (s.counter, state)
    ∃ t, s.run barrier (s.alone barrier (job.run state).1) = some t ∧
      t.calls[s.calls.length]? = some (.answered after.1) ∧ t.counter = after.2.1 := by
  intro after
  have counted : s.entered.calls[s.calls.length]? = some (.counted s.counter) :=
    List.getElem?_concat_length
  have inside := (List.getElem?_eq_some_iff.mp counted).1
  by_cases full : barrier.maxRunning ≤ s.counter
  · have told : after = (.error (.saturated s.counter), s.counter, state) := if_pos full
    let refused := s.entered.moved s.calls.length (.refused s.counter)
    have found : refused.calls[s.calls.length]? = some (.refused s.counter) :=
      List.getElem?_set_self inside
    have last := (List.getElem?_eq_some_iff.mp found).1
    rw [told, alone, if_pos full]
    exact ⟨_, runCons .enter (runCons (.refuse counted full) (runCons (.giveBackRefused found) rfl)),
      List.getElem?_set_self last, rfl⟩
  · have told : after = ((barrier.answer s.counter (job.run state).1).1,
        (barrier.answer s.counter (job.run state).1).2, (job.run state).2) := if_neg full
    let accepted := s.entered.moved s.calls.length .accepted
    have taken : accepted.calls[s.calls.length]? = some .accepted := List.getElem?_set_self inside
    let begun := accepted.started s.calls.length
    have found : begun.calls[s.calls.length]? = some (.waiting s.channels.length) :=
      List.getElem?_set_self (List.getElem?_eq_some_iff.mp taken).1
    have placed : begun.workers[s.workers.length]? =
        some ⟨s.calls.length, s.channels.length, .running⟩ := List.getElem?_concat_length
    have empty : begun.channels[s.channels.length]? = some [] := List.getElem?_concat_length
    have started {events : List Event} {t : Schedule} (ran : begun.run barrier events = some t) :
        s.run barrier (.enter :: .check s.calls.length :: .start s.calls.length :: events) =
          some t :=
      runCons .enter (runCons (.accept counted (Nat.lt_of_not_le full)) (runCons (.start taken) ran))
    rw [told, alone, if_neg full]
    cases job.run state with
    | mk ending next =>
      cases ending with
      | returned cost =>
        obtain ⟨t, ran, answered, counter⟩ := finishingRun (.returned cost) found placed empty
        exact ⟨t, started ran, answered, counter⟩
      | crashed message =>
        obtain ⟨t, ran, answered, counter⟩ := finishingRun (.crashed message) found placed empty
        exact ⟨t, started ran, answered, counter⟩
      | hung =>
        have last := (List.getElem?_eq_some_iff.mp found).1
        exact ⟨_, started (runCons (.timeOut found) rfl), List.getElem?_set_self last, rfl⟩

/-- Once its caller has its answer and its worker is gone, a call holds no slot. -/
theorem overFree {cost : Cost} (found : s.calls[call]? = some (.answered cost))
    (gone : ∀ w ∈ s.workers, w.call = call → w.stage.holdsSlot = false) :
    s.slots (· == call) = 0 := by
  refine Nat.eq_zero_of_not_pos fun held => ?_
  rcases slotHolder held with ⟨caller, here, holds⟩ | ⟨w, mem, own, holds⟩
  · cases found.symm.trans here
    contradiction
  · rw [gone w mem own] at holds
    contradiction

/-- In whatever order the steps of callers and workers come: no more jobs run than the limit says,
the counter is the number of slots held, each call has had one slot, which is given back once,
when all is over at the latest, and each caller is told of its own job or why there was none. -/
theorem slotsKept (barrier : Barrier) {events : List Event} {s : Schedule}
    (ran : initial.run barrier events = some s) :
    s.jobsRunning ≤ barrier.maxRunning ∧
      s.counter = s.slots (fun _ => true) ∧
      (∀ call < s.calls.length, s.released.count call + s.slots (· == call) = 1) ∧
      (∀ call, 0 < s.slots (· == call) → Returns barrier s call) ∧
      (∀ call cost, s.calls[call]? = some (.answered cost) →
        (∀ w ∈ s.workers, w.call = call → w.stage.holdsSlot = false) →
          s.released.count call = 1) ∧
      s.working.Nodup ∧
      ∀ call cost, s.calls[call]? = some (.answered cost) → Told barrier s call cost := by
  obtain ⟨balanced, ranked, wired, answered⟩ := runAnswered ran
  have once (call : Nat) (known : call < s.calls.length) :
      s.released.count call + s.slots (· == call) = 1 := by
    rw [balanced.once call, if_pos known]
  refine ⟨jobsBounded balanced ranked, balanced.counted, once, fun call => slotReturns wired,
    fun call cost found gone => ?_, wired.single, answered⟩
  have given := once call (List.getElem?_eq_some_iff.mp found).1
  rwa [overFree found gone, Nat.add_zero] at given

/-- Time is up for the first call, and the second is refused. Then the first job returns after
all, to nobody, and the third crashes. -/
def busyDay : List Event :=
  [.enter, .check 0, .start 0, .timeOut 0, .enter, .check 1, .giveBack 1,
    .finish 0 (.returned (.ok .one)), .send 0, .leave 0,
    .enter, .check 2, .start 2, .finish 1 (.crashed none), .send 1, .receive 2]

theorem slotsKeptBusyDay : ∃ s, initial.run ⟨50, 1⟩ busyDay = some s ∧
    s.calls = [.answered (.error (.timeout 50)), .answered (.error (.saturated 1)),
      .answered (.error (.crashed "oracle panicked"))] ∧
    s.jobsRunning ≤ 1 ∧ s.counter = s.slots (fun _ => true) ∧ s.released.count 0 = 1 ∧
    Returns ⟨50, 1⟩ s 2 ∧ Told ⟨50, 1⟩ s 2 (.error (.crashed "oracle panicked")) := by
  have ran : initial.run ⟨50, 1⟩ busyDay = some _ := rfl
  obtain ⟨bounded, counted, _, returns, once, _, told⟩ := slotsKept ⟨50, 1⟩ ran
  refine ⟨_, ran, rfl, bounded, counted, once 0 _ rfl (by decide), returns 2 (by decide),
    told 2 _ rfl⟩

end Schedule

end PassTuner.Barrier

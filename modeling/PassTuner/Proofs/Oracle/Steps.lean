import PassTuner.Oracle.Barrier.Schedule

/-! The steps of a schedule, one by one.

What an event needs and what it does is said once for each way it can go; what is kept along a run
is shown from these. -/
namespace PassTuner.Barrier.Schedule

variable {barrier : Barrier} {s t u : Schedule} {call : Nat} {event : Event}

inductive Step (barrier : Barrier) (s : Schedule) : Event → Schedule → Prop where
  | enter : Step barrier s .enter s.entered
  | refuse {call before : Nat} (found : s.calls[call]? = some (.counted before))
      (full : barrier.maxRunning ≤ before) :
      Step barrier s (.check call) (s.moved call (.refused before))
  | accept {call before : Nat} (found : s.calls[call]? = some (.counted before))
      (room : before < barrier.maxRunning) :
      Step barrier s (.check call) (s.moved call .accepted)
  | start {call : Nat} (found : s.calls[call]? = some .accepted) :
      Step barrier s (.start call) (s.started call)
  | startFails {call : Nat} {reason : String} (found : s.calls[call]? = some .accepted) :
      Step barrier s (.startFails call reason) (s.moved call (.unstarted reason))
  | giveBackRefused {call before : Nat} (found : s.calls[call]? = some (.refused before)) :
      Step barrier s (.giveBack call)
        ((s.release call).moved call (.answered (.error (.saturated before))))
  | giveBackUnstarted {call : Nat} {reason : String}
      (found : s.calls[call]? = some (.unstarted reason)) :
      Step barrier s (.giveBack call)
        ((s.release call).moved call (.answered (.error (.io reason))))
  | receive {call channel : Nat} {ending : Ending} {rest : List Ending}
      (found : s.calls[call]? = some (.waiting channel))
      (message : s.channels[channel]? = some (ending :: rest)) :
      Step barrier s (.receive call)
        ((s.filled channel rest).moved call (.answered (barrier.told ending)))
  | timeOut {call channel : Nat} (found : s.calls[call]? = some (.waiting channel)) :
      Step barrier s (.timeOut call)
        (s.moved call (.answered (.error (.timeout barrier.timeout))))
  | disconnect {call channel : Nat} (found : s.calls[call]? = some (.waiting channel))
      (empty : s.channels[channel]? = some []) (closed : s.isClosed channel) :
      Step barrier s (.disconnect call) (s.moved call (.answered lostWorker))
  | finish {place call channel : Nat} {ending : Ending}
      (found : s.workers[place]? = some ⟨call, channel, .running⟩) :
      Step barrier s (.finish place ending) (s.staged place ⟨call, channel, .ended ending⟩)
  | send {place call channel : Nat} {ending : Ending} {messages : List Ending}
      (found : s.workers[place]? = some ⟨call, channel, .ended ending⟩)
      (queue : s.channels[channel]? = some messages) :
      Step barrier s (.send place)
        ((s.filled channel (messages ++ [ending])).staged place ⟨call, channel, .sent ending⟩)
  | leave {place call channel : Nat} {ending : Ending}
      (found : s.workers[place]? = some ⟨call, channel, .sent ending⟩) :
      Step barrier s (.leave place) ((s.release call).staged place ⟨call, channel, .gone ending⟩)

theorem stepOnly (stepped : s.step barrier event = some t) :
    Step barrier s event t := by
  cases event with
  | enter =>
    cases stepped
    exact .enter
  | check call =>
    simp only [step] at stepped
    split at stepped <;> try contradiction
    rename_i before found
    cases stepped
    split
    · exact .refuse found ‹_›
    · exact .accept found (Nat.lt_of_not_le ‹_›)
  | start call =>
    simp only [step] at stepped
    split at stepped <;> try contradiction
    cases stepped
    exact .start ‹_›
  | startFails call reason =>
    simp only [step] at stepped
    split at stepped <;> try contradiction
    cases stepped
    exact .startFails ‹_›
  | giveBack call =>
    simp only [step] at stepped
    split at stepped <;> try contradiction
    · cases stepped
      exact .giveBackRefused ‹_›
    · cases stepped
      exact .giveBackUnstarted ‹_›
  | receive call =>
    simp only [step] at stepped
    split at stepped <;> try contradiction
    split at stepped <;> try contradiction
    cases stepped
    exact .receive ‹_› ‹_›
  | timeOut call =>
    simp only [step] at stepped
    split at stepped <;> try contradiction
    cases stepped
    exact .timeOut ‹_›
  | disconnect call =>
    simp only [step] at stepped
    split at stepped <;> try contradiction
    split at stepped <;> try contradiction
    rename_i found left
    cases stepped
    obtain ⟨messages, queue, none⟩ := Option.any_eq_true .. |>.mp left.1
    exact .disconnect found (List.isEmpty_iff.mp none ▸ queue) left.2
  | finish place ending =>
    simp only [step] at stepped
    split at stepped <;> try contradiction
    cases stepped
    exact .finish ‹_›
  | send place =>
    simp only [step] at stepped
    split at stepped <;> try contradiction
    split at stepped <;> try contradiction
    cases stepped
    exact .send ‹_› ‹_›
  | leave place =>
    simp only [step] at stepped
    split at stepped <;> try contradiction
    cases stepped
    exact .leave ‹_›

theorem Step.stepped (can : Step barrier s event t) : s.step barrier event = some t := by
  cases can with
  | enter => rfl
  | refuse found full => simp [step, found, full]
  | accept found room => simp [step, found, Nat.not_le.mpr room]
  | start found => simp [step, found]
  | startFails found => simp [step, found]
  | giveBackRefused found => simp [step, found]
  | giveBackUnstarted found => simp [step, found]
  | receive found message => simp [step, found, message]
  | timeOut found => simp [step, found]
  | disconnect found empty closed => simp [step, found, empty, closed]
  | finish found => simp [step, found]
  | send found queue => simp [step, found, queue]
  | leave found => simp [step, found]

theorem runCons {rest : List Event} (can : Step barrier s event t)
    (ran : t.run barrier rest = some u) : s.run barrier (event :: rest) = some u := by
  rw [run, List.foldlM_cons, can.stepped]
  exact ran

/-- What every step keeps, every run keeps. -/
theorem runKeeps {P : Schedule → Prop}
    (keeps : ∀ {s t : Schedule} {event : Event}, P s → Step barrier s event t → P t)
    {events : List Event} (ran : s.run barrier events = some t) (start : P s) : P t := by
  induction events generalizing s with
  | nil =>
    cases ran
    exact start
  | cons event rest ih =>
    rw [run, List.foldlM_cons] at ran
    obtain ⟨next, stepped, ran⟩ := Option.bind_eq_some_iff.mp ran
    exact ih ran (keeps start (stepOnly stepped))

/-! Where a caller is found after some have moved. -/

theorem foundSet {new caller : Caller} {other : Nat}
    (found : (s.calls.set call new)[other]? = some caller) :
    other = call ∧ caller = new ∨ other ≠ call ∧ s.calls[other]? = some caller := by
  rw [List.getElem?_set] at found
  split at found
  · rename_i same
    split at found <;> cases found
    exact .inl ⟨same.symm, rfl⟩
  · rename_i other
    exact .inr ⟨Ne.symm other, found⟩

theorem foundEntered {caller : Caller} (found : s.entered.calls[call]? = some caller) :
    s.calls[call]? = some caller ∨ call = s.calls.length ∧ caller = .counted s.counter := by
  rw [entered, List.getElem?_append] at found
  split at found
  · exact .inl found
  · rw [List.getElem?_singleton] at found
    split at found <;> cases found
    exact .inr ⟨by omega, rfl⟩

end PassTuner.Barrier.Schedule

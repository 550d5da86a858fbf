import Mathlib.Data.List.Induction
import Mathlib.Data.List.Nodup
import PassTuner.Proofs.Oracle.Answers

/-! Why a call is refused.

A call compares with the limit the number of slots it found held when it counted itself. Jobs that
still run hold slots; so do workers that have sent what their jobs came to and have not left yet,
and callers that are on their way in or have been refused themselves. So a call can be refused
while no job runs at all, even if its caller has been told of the end of every job before. -/
namespace PassTuner.Barrier.Schedule

variable {barrier : Barrier} {s t u : Schedule} {call : Nat}

/-- Workers that hold a slot although their job is over. -/
def lingering (s : Schedule) : Nat :=
  s.workers.countP fun w => w.stage.holdsSlot && !w.stage.isRunning

/-- Callers that hold a slot themselves. -/
def passing (s : Schedule) : Nat := s.calls.countP Caller.holdsSlot

theorem workersSplit (workers : List Worker) :
    workers.countP (fun w => w.stage.holdsSlot) =
      workers.countP (fun w => w.stage.isRunning) +
        workers.countP fun w => w.stage.holdsSlot && !w.stage.isRunning := by
  induction workers with
  | nil => rfl
  | cons w rest ih =>
    obtain ⟨_, _, stage⟩ := w
    simp only [List.countP_cons, ih]
    cases stage <;> simp [Stage.holdsSlot, Stage.isRunning] <;> omega

theorem slotsSplit (s : Schedule) :
    s.slots (fun _ => true) = s.jobsRunning + s.lingering + s.passing := by
  have callers : s.calls.zipIdx.countP (fun place => place.1.holdsSlot && true) = s.passing := by
    have first : (fun place : Caller × Nat => place.1.holdsSlot && true) =
        Caller.holdsSlot ∘ Prod.fst := funext fun place => Bool.and_true _
    rw [first, ← List.countP_map, List.zipIdx_map_fst, passing]
  have workers : s.workers.countP (fun w => w.stage.holdsSlot && true) =
      s.jobsRunning + s.lingering := by
    simp only [Bool.and_true]
    exact workersSplit s.workers
  rw [slots, callers, workers, Nat.add_comm]

theorem keptCounted {new : Caller} {other before : Nat}
    (found : (s.calls.set other new)[call]? = some (.counted before))
    (apart : new ≠ .counted before) : s.calls[call]? = some (.counted before) := by
  rcases foundSet found with ⟨_, same⟩ | ⟨_, old⟩
  · exact absurd same.symm apart
  · exact old

/-- What a caller has found it has found when it counted itself. -/
theorem countedStep {event : Event} {before : Nat} (can : Step barrier s event t)
    (found : t.calls[call]? = some (.counted before)) :
    s.calls[call]? = some (.counted before) ∨
      event = .enter ∧ call = s.calls.length ∧ before = s.counter := by
  cases can with
  | enter =>
    rcases foundEntered found with old | ⟨same, counter⟩
    · exact .inl old
    · cases counter
      exact .inr ⟨rfl, same, rfl⟩
  | finish _ => exact .inl found
  | send _ _ => exact .inl found
  | leave _ => exact .inl found
  | refuse _ _ => exact .inl (keptCounted found nofun)
  | accept _ _ => exact .inl (keptCounted found nofun)
  | start _ => exact .inl (keptCounted found nofun)
  | startFails _ => exact .inl (keptCounted found nofun)
  | giveBackRefused _ => exact .inl (keptCounted found nofun)
  | giveBackUnstarted _ => exact .inl (keptCounted found nofun)
  | receive _ _ => exact .inl (keptCounted found nofun)
  | timeOut _ => exact .inl (keptCounted found nofun)
  | disconnect _ _ _ => exact .inl (keptCounted found nofun)

/-- The events before a caller counted itself, and what it found then. -/
theorem countedWhen {events : List Event} {before : Nat}
    (ran : initial.run barrier events = some s) (found : s.calls[call]? = some (.counted before)) :
    ∃ earlier later u, events = earlier ++ .enter :: later ∧
      initial.run barrier earlier = some u ∧ call = u.calls.length ∧ before = u.counter := by
  -- the last event either is the one in question or comes later than it
  induction events using List.reverseRecOn generalizing s with
  | nil =>
    cases ran
    contradiction
  | append_singleton events event ih =>
    rw [run, List.foldlM_append] at ran
    obtain ⟨t, first, last⟩ := Option.bind_eq_some_iff.mp ran
    have stepped : t.step barrier event = some s := by simpa using last
    rcases countedStep (stepOnly stepped) found with old | ⟨rfl, same, counter⟩
    · obtain ⟨earlier, later, u, split, there, which⟩ := ih first old
      exact ⟨earlier, later ++ [event], u, by simp [split], there, which⟩
    · exact ⟨events, [], t, rfl, first, same, counter⟩

/-- If all callers so far have their answers and time was up for none, no job runs. -/
theorem answeredOver (wired : s.Wired) (answered : Answered barrier s)
    (told : ∀ caller ∈ s.calls, ∃ cost, caller = .answered cost ∧
      cost ≠ .error (.timeout barrier.timeout)) : s.jobsRunning = 0 ∧ s.passing = 0 := by
  constructor
  · refine List.countP_eq_zero.mpr fun w mem running => ?_
    have known : w.call ∈ s.working := List.mem_map_of_mem mem
    obtain ⟨caller, found⟩ : ∃ caller, s.calls[w.call]? = some caller :=
      ⟨_, List.getElem?_eq_getElem (wired.known _ known)⟩
    obtain ⟨cost, rfl, inTime⟩ := told caller (List.mem_of_getElem? found)
    cases answered w.call cost found with
    | refused _ idle => exact idle known
    | unstarted idle => exact idle known
    | timedOut _ => exact inTime rfl
    | result inside own ended =>
      have same := List.inj_on_of_nodup_map wired.single inside mem own
      rw [same] at ended
      cases stage : w.stage <;> simp [stage, Stage.isRunning, Stage.ending?] at running ended
  · refine List.countP_eq_zero.mpr fun caller mem holds => ?_
    obtain ⟨cost, rfl, _⟩ := told caller mem
    contradiction

theorem checkRefuses {before : Nat} (found : s.calls[call]? = some (.counted before)) :
    s.step barrier (.check call) = some (s.moved call (.refused before)) ↔
      barrier.maxRunning ≤ before := by
  constructor
  · intro refused
    refine Nat.le_of_not_lt fun room => ?_
    have accepted : Step barrier s (.check call) (s.moved call .accepted) := .accept found room
    have same := congrArg calls (Option.some.inj (accepted.stepped.symm.trans refused))
    have inside := (List.getElem?_eq_some_iff.mp found).1
    have here := congrArg (·[call]?) same
    simp [moved, inside] at here
  · exact fun full => (Step.refuse found full).stepped

/-- A caller is refused exactly if, when it counted itself, the jobs that ran, the workers whose
jobs were over and the callers on their way in or out were as many as the limit together. If all
callers before it had their answers and time was up for none, only workers count whose jobs were
over. -/
theorem refusalExact (barrier : Barrier) {events : List Event} {s : Schedule}
    (ran : initial.run barrier events = some s) {call before : Nat}
    (found : s.calls[call]? = some (.counted before)) :
    (s.step barrier (.check call) = some (s.moved call (.refused before)) ↔
      barrier.maxRunning ≤ before) ∧
    ∃ earlier later u, events = earlier ++ .enter :: later ∧
      initial.run barrier earlier = some u ∧ call = u.calls.length ∧
      before = u.jobsRunning + u.lingering + u.passing ∧
      ((∀ caller ∈ u.calls, ∃ cost, caller = .answered cost ∧
        cost ≠ .error (.timeout barrier.timeout)) → before = u.lingering) := by
  refine ⟨checkRefuses found, ?_⟩
  obtain ⟨earlier, later, u, split, there, place, rfl⟩ := countedWhen ran found
  obtain ⟨balanced, _, wired, answered⟩ := runAnswered there
  have counted : u.counter = u.jobsRunning + u.lingering + u.passing :=
    balanced.counted.trans (slotsSplit u)
  refine ⟨earlier, later, u, split, there, place, counted, fun told => ?_⟩
  obtain ⟨idle, empty⟩ := answeredOver wired answered told
  rw [counted, idle, empty, Nat.zero_add, Nat.add_zero]

/-- The first caller has its result and makes a second call before its worker has left. -/
def inARow : List Event :=
  [.enter, .check 0, .start 0, .finish 0 (.returned (.ok .one)), .send 0, .receive 0, .enter]

theorem refusalExactInARow : ∃ s, initial.run ⟨50, 1⟩ inARow = some s ∧
    s.calls = [.answered (.ok .one), .counted 1] ∧
    s.step ⟨50, 1⟩ (.check 1) = some (s.moved 1 (.refused 1)) ∧
    ∃ earlier later u, inARow = earlier ++ .enter :: later ∧
      initial.run ⟨50, 1⟩ earlier = some u ∧ 1 = u.calls.length ∧
      1 = u.jobsRunning + u.lingering + u.passing := by
  let s : Schedule := ⟨2, [.answered (.ok .one), .counted 1],
    [⟨0, 0, .sent (.returned (.ok .one))⟩], [[]], []⟩
  have ran : initial.run ⟨50, 1⟩ inARow = some s := rfl
  have found : s.calls[1]? = some (.counted 1) := rfl
  obtain ⟨refused, earlier, later, u, split, there, place, counted, _⟩ :=
    refusalExact ⟨50, 1⟩ ran found
  exact ⟨s, ran, rfl, refused.mpr (Nat.le_refl 1), earlier, later, u, split, there, place, counted⟩

/-- The third call finds the slot of the second, which is refused and has not given it back yet. -/
def onTheHeels : List Event :=
  [.enter, .check 0, .start 0, .enter, .check 1, .finish 0 (.returned (.ok .one)), .send 0,
    .receive 0, .leave 0, .enter]

theorem refusedIdle :
    (¬∀ (barrier : Barrier) (events : List Event) (s : Schedule) (call before : Nat),
      initial.run barrier events = some s → s.calls[call]? = some (.counted before) →
        s.step barrier (.check call) = some (s.moved call (.refused before)) →
          barrier.maxRunning ≤ s.jobsRunning) ∧
    (¬∀ (barrier : Barrier) (events : List Event) (s : Schedule) (call before : Nat),
      initial.run barrier events = some s → s.calls[call]? = some (.counted before) →
        s.step barrier (.check call) = some (s.moved call (.refused before)) →
          barrier.maxRunning ≤ s.jobsRunning + s.lingering) ∧
    ¬∀ (barrier : Barrier) (events : List Event) (s : Schedule) (cost : Double) (before : Nat),
      initial.run barrier events = some s →
        s.calls = [.answered (.ok cost), .counted before] →
          s.step barrier (.check 1) ≠ some (s.moved 1 (.refused before)) := by
  refine ⟨fun really => ?_, fun really => ?_, fun never => ?_⟩
  · exact absurd (really ⟨50, 1⟩ inARow _ 1 1 rfl rfl rfl) (by decide)
  · exact absurd (really ⟨50, 1⟩ onTheHeels _ 2 1 rfl rfl rfl) (by decide)
  · exact never ⟨50, 1⟩ inARow _ .one 1 rfl rfl rfl

end PassTuner.Barrier.Schedule

import PassTuner.Oracle.Barrier

/-! Overlapping calls through a barrier, step by step.

A caller counts itself, compares the count it found with the limit, and starts a worker, which
takes over its slot and one end of a new channel. The worker sends what its job came to before it
gives the slot back. The caller waits at the other end, but not for ever. Each event is one atomic
step of one thread, and the events of different threads may come in any order. -/
namespace PassTuner.Barrier

/-- How a job comes to its end, if it does. -/
inductive Ending where
  | returned (cost : Cost)
  | crashed (message : Option String)
  deriving Repr

def Ending.callEnd : Ending → CallEnd
  | .returned cost => .returned cost
  | .crashed message => .crashed message

/-- What the caller makes of a result. -/
def told (barrier : Barrier) (ending : Ending) : Cost := (barrier.answer 0 ending.callEnd).1

/-- Where a caller stands. -/
inductive Caller where
  /-- it has counted itself and found so many before it -/
  | counted (before : Nat)
  /-- these were too many, and its slot is to be given back -/
  | refused (before : Nat)
  | accepted
  /-- no thread was to be had, and its slot is to be given back -/
  | unstarted (reason : String)
  | waiting (channel : Nat)
  | answered (cost : Cost)
  deriving Repr

def Caller.holdsSlot : Caller → Bool
  | .counted _ | .refused _ | .accepted | .unstarted _ => true
  | .waiting _ | .answered _ => false

/-- Where a worker stands. -/
inductive Stage where
  | running
  | ended (ending : Ending)
  | sent (ending : Ending)
  /-- it has given its slot back -/
  | gone (ending : Ending)
  deriving Repr

def Stage.holdsSlot : Stage → Bool
  | .running | .ended _ | .sent _ => true
  | .gone _ => false

/-- A thread that runs the job of a call and then holds the slot of that call. -/
structure Worker where
  call : Nat
  channel : Nat
  stage : Stage
  deriving Repr

/-- All calls made so far in the order of their counting, the workers they started, and what lies
in the channels. No thread looks at the list of calls whose slots have been given back. -/
structure Schedule where
  counter : Nat
  calls : List Caller
  workers : List Worker
  channels : List (List Ending)
  released : List Nat
  deriving Repr

/-- One step of one thread: of a caller up to `disconnect`, of a worker from `finish` on. -/
inductive Event where
  | enter
  | check (call : Nat)
  | start (call : Nat)
  | startFails (call : Nat) (reason : String)
  | giveBack (call : Nat)
  | receive (call : Nat)
  | timeOut (call : Nat)
  | disconnect (call : Nat)
  | finish (worker : Nat) (ending : Ending)
  | send (worker : Nat)
  | leave (worker : Nat)
  deriving Repr

def lostWorker : Cost := .error (.crashed "oracle thread exited without a result")

namespace Schedule

def initial : Schedule := ⟨0, [], [], [], []⟩

/-- A caller has moved on. -/
def moved (s : Schedule) (call : Nat) (caller : Caller) : Schedule :=
  { s with calls := s.calls.set call caller }

/-- A worker has moved on. -/
def staged (s : Schedule) (place : Nat) (worker : Worker) : Schedule :=
  { s with workers := s.workers.set place worker }

/-- The slot of a call has been given back. -/
def release (s : Schedule) (call : Nat) : Schedule :=
  { s with counter := s.counter - 1, released := s.released ++ [call] }

/-- A caller has counted itself. -/
def entered (s : Schedule) : Schedule :=
  { s with counter := s.counter + 1, calls := s.calls ++ [.counted s.counter] }

/-- A caller has started a worker, with a channel of its own. -/
def started (s : Schedule) (call : Nat) : Schedule :=
  { s with
    calls := s.calls.set call (.waiting s.channels.length)
    workers := s.workers ++ [⟨call, s.channels.length, .running⟩]
    channels := s.channels ++ [[]] }

/-- What is in a channel has changed. -/
def filled (s : Schedule) (channel : Nat) (messages : List Ending) : Schedule :=
  { s with channels := s.channels.set channel messages }

/-- Whether no worker is left that could send. -/
def isClosed (s : Schedule) (channel : Nat) : Bool :=
  s.workers.all fun w => w.channel != channel || !w.stage.holdsSlot

/-- The schedule after an event, if its thread stands where that can happen. -/
def step (barrier : Barrier) (s : Schedule) : Event → Option Schedule
  | .enter => some s.entered
  | .check call =>
    match s.calls[call]? with
    | some (.counted before) =>
      some (s.moved call (if barrier.maxRunning ≤ before then .refused before else .accepted))
    | _ => none
  | .start call =>
    match s.calls[call]? with
    | some .accepted => some (s.started call)
    | _ => none
  | .startFails call reason =>
    match s.calls[call]? with
    | some .accepted => some (s.moved call (.unstarted reason))
    | _ => none
  | .giveBack call =>
    match s.calls[call]? with
    | some (.refused before) =>
      some ((s.release call).moved call (.answered (.error (.saturated before))))
    | some (.unstarted reason) =>
      some ((s.release call).moved call (.answered (.error (.io reason))))
    | _ => none
  | .receive call =>
    match s.calls[call]? with
    | some (.waiting channel) =>
      match s.channels[channel]? with
      | some (ending :: rest) =>
        some ((s.filled channel rest).moved call (.answered (barrier.told ending)))
      | _ => none
    | _ => none
  | .timeOut call =>
    match s.calls[call]? with
    | some (.waiting _) => some (s.moved call (.answered (.error (.timeout barrier.timeout))))
    | _ => none
  | .disconnect call =>
    match s.calls[call]? with
    | some (.waiting channel) =>
      if (s.channels[channel]?).any List.isEmpty ∧ s.isClosed channel then
        some (s.moved call (.answered lostWorker))
      else none
    | _ => none
  | .finish place ending =>
    match s.workers[place]? with
    | some ⟨call, channel, .running⟩ =>
      some (s.staged place ⟨call, channel, .ended ending⟩)
    | _ => none
  | .send place =>
    match s.workers[place]? with
    | some ⟨call, channel, .ended ending⟩ =>
      match s.channels[channel]? with
      | some messages =>
        some ((s.filled channel (messages ++ [ending])).staged place ⟨call, channel, .sent ending⟩)
      | none => none
    | _ => none
  | .leave place =>
    match s.workers[place]? with
    | some ⟨call, channel, .sent ending⟩ =>
      some ((s.release call).staged place ⟨call, channel, .gone ending⟩)
    | _ => none

/-- The schedule after some events, if they can come in this order. -/
def run (barrier : Barrier) (s : Schedule) (events : List Event) : Option Schedule :=
  events.foldlM (step barrier) s

end Schedule

end PassTuner.Barrier

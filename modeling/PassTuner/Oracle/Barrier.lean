import PassTuner.Oracle.Basic

/-! The barrier around measurements that may crash or never return.

Each call runs apart from its caller, who waits for a limited time. A call that does not return in
time is abandoned and keeps its slot; once all slots are taken, further calls are refused. Here
calls are made one after another; `Barrier.Schedule` has them overlap. -/
namespace PassTuner

/-- How a measurement comes to its end. -/
inductive CallEnd where
  | returned (cost : Cost)
  /-- it crashed, perhaps with a message -/
  | crashed (message : Option String)
  /-- it does not return -/
  | hung
  deriving Repr

/-- A measurement without protection. `σ` is the state of what it works on. -/
structure Measurement (σ : Type) where
  baseline : StateM σ CallEnd
  measure : Decisions → StateM σ CallEnd

/-- How long a caller waits, and how many calls may be running. -/
structure Barrier where
  timeout : Nat
  maxRunning : Nat
  deriving DecidableEq, Repr

namespace Barrier

/-- Slots of a barrier that is not told otherwise. -/
def defaultSlots : Nat := 256

/-- A barrier has at least one slot. -/
def ofLimits (timeout maxRunning : Nat) : Barrier := ⟨timeout, max maxRunning 1⟩

/-- What the caller is told of a call that came to an end, or did not, and the number of calls
running then. -/
def answer (barrier : Barrier) (running : Nat) : CallEnd → Cost × Nat
  | .returned cost => (cost, running)
  | .crashed message => (.error (.crashed (message.getD "oracle panicked")), running)
  | .hung => (.error (.timeout barrier.timeout), running + 1)

/-- Make one call, given the number of calls still running. A call that is refused does nothing. -/
def call {σ : Type} (barrier : Barrier) (job : StateM σ CallEnd) : StateM (Nat × σ) Cost :=
  fun (running, state) =>
    if barrier.maxRunning ≤ running then (.error (.saturated running), running, state)
    else
      let (ending, state) := job.run state
      let (cost, running) := barrier.answer running ending
      (cost, running, state)

/-- The measurement behind the barrier. Beside its own state there is the number of calls still
running. -/
def protect {σ : Type} (barrier : Barrier) (m : Measurement σ) : Oracle (Nat × σ) :=
  ⟨barrier.call m.baseline, fun d => barrier.call (m.measure d)⟩

end Barrier

end PassTuner

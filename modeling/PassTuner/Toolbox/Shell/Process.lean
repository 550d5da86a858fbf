import PassTuner.Toolbox.Shell.Redirection
import PassTuner.Toolbox.Shell.Signal

/-! Processes: how they begin and how they end. -/
namespace PassTuner.Toolbox.Shell

open Text (Stream)

def statusOfEnding : Ending → Nat
  | .exited status => status % 256
  | .killed signal => 128 + signal

/-- Run the command for a signal. The status stays as it is, unless the command leaves a function with
another. -/
def runTrap (m : Machine) (command : String) : Run Unit := do
  let s ← Run.shell
  let status := s.trapped.getD s.status
  Run.modifyShell fun s => { s with trapped := some status }
  try m.runText false .text command
  catch stop =>
    Run.modifyShell fun now => { now with
      status := if stop = .return false then status else now.status
      trapped := s.trapped }
    throw stop
  Run.modifyShell fun now => { now with status, trapped := s.trapped }

/-- Run the commands for signals that have come in, one after another. Those that are not reached wait
again. -/
def runTraps (m : Machine) : List Nat → Run Unit
  | [] => return
  | signal :: rest => do
    match (← Run.shell).trap? signal with
    | some command =>
      if !command.isEmpty then
        try runTrap m command
        catch stop =>
          Run.modifyShell fun s => { s with pending := rest ++ s.pending }
          throw stop
    | none => pure ()
    runTraps m rest

def runPending (m : Machine) : Run Unit := do
  let pending := (← Run.shell).pending
  if !pending.isEmpty then
    Run.modifyShell fun s => { s with pending := [] }
    runTraps m pending

/-- How a process has ended whose run has come to something, if ever. -/
def endingOf (status : Nat) : Except Stop Unit → Option Ending
  | .error .endless => none
  | .error (.killed signal) => some (.killed signal)
  | .error (.exit status) => some (.exited (status % 256))
  | .error .fault => some (.exited 2)
  | .ok () | .error _ => some (.exited (status % 256))

/-- Run a process to its end. The command for its end is run last. -/
def concludeWith (m : Machine) (body : Run Unit) : StateM Session (Option Ending) := do
  let result ← body.run
  let s ← get
  let ending := endingOf s.shell.status result
  match s.shell.trap? 0, ending with
  | some command, some (.exited status) =>
    modify fun s => { s with
      shell.traps := s.shell.traps.filter fun trap => trap.1 != 0
      shell.status := status
      shell.trapped := some status }
    let last ← (m.runText false .text command).run
    return match last with
      | .ok () | .error (.return _) | .error (.leave _) | .error (.again _) => some (.exited status)
      | last => endingOf status last
  | _, ending => return ending

/-- Run a process beside the shell, from now on. Returns how it ends, if ever, and when. Nothing of
its own is left in the shell. -/
def child (m : Machine) (setUp : Interpreter → Interpreter) (body : Run Unit) : Run (Option Ending × Nat) := do
  let s ← get
  let before := s.shell
  let process := s.world.nextProcess
  let started := setUp { before with
    process
    parents := before.process :: before.parents
    traps := before.traps.filter fun trap => trap.2.isEmpty
    pending := []
    jobs := []
    printed := [] }
  set { s with world.nextProcess := process + 1, shell := started }
  let ending ← (concludeWith m body : Run (Option Ending))
  let finish := (← Run.shell).now
  Run.modifyShell fun _ => before
  return (ending, finish)

def tellEnding : Ending → Run Unit
  | .killed signal => if signal ≠ 2 ∧ signal ≠ 13 then Run.tell (signalText signal ++ "\n") else return
  | .exited _ => return

def noteJobs : Run Unit := do
  let endings := (← Run.world).endings
  Run.modifyShell fun s => { s with
    jobs := s.jobs.map fun job =>
      match endings.lookup job.process with
      | some (some (finish, _)) => if finish ≤ s.now then { job with noted := true } else job
      | _ => job }

/-- Wait for a process: its status becomes the shell's. -/
def await (ending : Option Ending) (finish : Nat) : Run Unit := do
  match ending with
  | none => throw .endless
  | some ending =>
    Run.modifyShell fun s => { s with now := max s.now finish, status := statusOfEnding ending }
    Run.receiveSent
    noteJobs
    tellEnding ending

end PassTuner.Toolbox.Shell

import PassTuner.Toolbox.Shell.Builtin.Basic

/-! Commands of the shell's own that are about signals and about jobs in the background. -/
namespace PassTuner.Toolbox.Shell

open Text (Stream)

/-! ### Jobs -/

/-- Add a job. It takes the least number that is free or whose job is over and was waited for. -/
def addJob (process members : Nat) : Run Unit := do
  let endings := (← Run.world).endings
  Run.modifyShell fun s =>
    let isOver (job : Job) : Bool := match endings.lookup job.process with
      | some (some (finish, _)) => decide (finish ≤ s.now)
      | _ => false
    let jobs := s.jobs.filter fun job => !(job.waited && isOver job)
    let free := (List.range (jobs.length + 1)).find? fun i => !jobs.any fun job => job.number == i + 1
    { s with jobs := ⟨free.getD 0 + 1, process, members, false, false⟩ :: jobs }

/-- The job that a word names, or the current one. -/
def jobOf (word : Option String) : Run Job := do
  let jobs := (← Run.shell).jobs
  let (job?, none?) : Option Job × String :=
    match word.map String.toList with
    | none | some ['%'] | some ['%', '%'] | some ['%', '+'] => (jobs.head?, "No current job")
    | some ['%', '-'] => (jobs[1]?, "No previous job")
    | some ('%' :: name) =>
      (if name.all Char.isDigit then jobs.find? fun job => job.number == digitsIn 10 name else none,
        "No such job: " ++ word.getD "")
    | some _ => (none, "No such job: " ++ word.getD "")
  match job? with
  | some job => return job
  | none => Run.fail none?

/-- The state of a job, as it is listed. -/
def jobState (now : Nat) : Option (Nat × Ending) → String
  | some (finish, ending) =>
    if finish ≤ now then
      match ending with
      | .exited 0 => "Done"
      | .exited status => "Done(" ++ toString status ++ ")"
      | .killed signal => signalText signal
    else "Running"
  | none => "Running"

/-- List jobs. Those that are over are forgotten then. -/
def jobsWith : Builtin := fun _ words => do
  let letters ← takeLetters ['l', 'p'] [] words
  let s ← get
  let listed ← if letters.operands.isEmpty then pure s.shell.jobs
    else letters.operands.mapM fun word => jobOf (some word)
  listed.forM fun job => do
    let state := jobState s.shell.now ((s.world.endings.lookup job.process).getD none)
    if letters.has 'p' then emitLine (toString job.process)
    else
      let mark := match s.shell.jobs.findIdx? fun other => other.process == job.process with
        | some 0 => "+"
        | some 1 => "-"
        | _ => " "
      let text := "[" ++ toString job.number ++ "] " ++ mark ++ " " ++
        (if letters.has 'l' then toString job.process ++ " " else "") ++ state
      emitLine (text ++ String.ofList (List.replicate (max 1 (33 - text.length)) ' ') ++
        String.join (List.replicate (job.members - 1) " | "))
    if state != "Running" then
      Run.modifyShell fun s => { s with jobs := s.jobs.filter fun other => other.process != job.process }
  return 0

/-- Let a job go on in front or behind, which takes a terminal. -/
def controlWith : Builtin := fun _ words => do
  let letters ← takeLetters [] [] words
  let word := letters.operands.head?
  let _ ← jobOf word
  Run.fail ("job " ++ word.getD "(null)" ++ " not created under job control")

/-- Wait for a job: its status, unless a signal comes in before its end. -/
def awaitJob (isNamed : Bool) (job : Job) : Run (Except Nat Nat) := do
  let ending := ((← Run.world).endings.lookup job.process).getD none
  match ← Run.pass (ending.map Prod.fst) with
  | some signal => return .error (128 + signal)
  | none =>
    Run.modifyShell fun s => { s with
      jobs := s.jobs.map fun other => if other.process = job.process then { other with waited := true } else other }
    match ending with
    | none => return .ok 0
    | some (_, ending) =>
      if isNamed && !job.noted then tellEnding ending
      noteJobs
      return .ok (statusOfEnding ending)

/-- Wait for one job after another; the status of the last, unless a signal comes in. -/
def awaitJobs (isNamed : Bool) : Nat → List Job → Run (Except Nat Nat)
  | status, [] => return .ok status
  | _, job :: rest => do
    match ← awaitJob isNamed job with
    | .ok status => awaitJobs isNamed status rest
    | .error status => return .error status

/-- Wait for jobs in the background, all or those given. -/
def waitWith : Builtin := fun _ words => do
  let letters ← takeLetters [] [] words
  if letters.operands.isEmpty then
    match ← awaitJobs false 0 (← Run.shell).jobs.reverse with
    | .error status => return status
    | .ok _ =>
      Run.modifyShell fun s => { s with jobs := [] }
      return 0
  else
    letters.operands.foldlM (fun status word => do
      if status ≥ 128 && (← Run.shell).pending.isEmpty.not then return status
      let job? ← if word.startsWith "%" then some <$> jobOf (some word)
        else do
          let process ← naturalOf word
          pure ((← Run.shell).jobs.find? fun job => job.process == process)
      match job? with
      | none => return 127
      | some job =>
        match ← awaitJob true job with
        | .ok status | .error status => return status) 0

/-! ### Signals -/

def trapWith : Builtin := fun _ words => do
  let letters ← takeLetters [] [] words
  match letters.operands with
  | [] =>
    (List.range signalCount).forM fun signal => do
      match (← Run.shell).trap? signal with
      | some command =>
        emitLine ("trap -- " ++ quoted command ++ " " ++ (signalKeys.lookup signal).getD (toString signal))
      | none => return
    return 0
  | first :: rest =>
    let (action, signals) : Option String × List String :=
      if rest.isEmpty || (signalNumber? first).isSome then (none, first :: rest)
      else if first = "-" then (none, rest) else (some first, rest)
    let known := signals.takeWhile fun word => (signalOf? 0 word).isSome
    known.forM fun word => do
      match signalOf? 0 word with
      | some signal => Run.modifyShell fun s =>
        let others := s.traps.filter fun trap => trap.1 != signal
        { s with traps := match action with
          | some command => (signal, command) :: others
          | none => others }
      | none => return
    match signals.drop known.length with
    | word :: _ =>
      Run.tell ("trap: " ++ word ++ ": bad trap\n")
      return 1
    | [] => return 0

/-- What is left of something printed by a process that is killed at a time. -/
def Chunk.upTo (now process : Nat) (chunk : Chunk) : Option Chunk :=
  if chunk.job ≠ process then some chunk
  else if now < chunk.time then none
  else some { chunk with stream := .ofText (chunk.stream.unrolled 1) }

/-- Send a signal to a process in the background; tells whether it is there. -/
def killBackground (process signal : Nat) : Run Bool := do
  let s ← get
  match s.world.endings.lookup process with
  | none => return false
  | some ending =>
    if ending.any fun (finish, _) => decide (finish < s.shell.now) then return false
    if signal ≠ 0 ∧ !ignoredSignals.contains signal then
      let now := s.shell.now
      Run.modifyWorld fun w => { w with
        endings := (process, some (now, .killed signal)) :: w.endings.filter fun entry => entry.1 != process
        channels := w.channels.map fun (number, channel) =>
          match channel with
          | .sink written => (number, .sink (written.filterMap (Chunk.upTo now process)))
          | channel => (number, channel) }
    return true

def killUsage : String :=
  "Usage: kill [-s sigspec | -signum | -sigspec] [pid | job]... or\nkill -l [exitstatus]"

/-- Send a signal to the process that a word names; the status. -/
def killNamed (signal : Nat) (word : String) : Run Nat := do
  let isGroup := word.startsWith "%" || word.startsWith "-"
  let process ← if word.startsWith "%" then Job.process <$> jobOf (some word)
    else naturalOf (if word.startsWith "-" then String.ofList (word.toList.drop 1) else word)
  let s ← Run.shell
  let isThere ← if isGroup then pure false
    else if process = s.process then do
      Run.receive signal
      pure true
    else if s.parents.contains process then do
      Run.modifyWorld fun w => { w with sent := w.sent ++ [⟨process, signal, s.now⟩] }
      pure true
    else if process = 1 then pure (signal == 0)
    else killBackground process signal
  if isThere then return 0
  Run.complain "No such process\n"
  return 1

/-- Send signals to processes, or list them. -/
def killWith : Builtin := fun _ words => do
  let start : Option (Option Nat × Bool × List String) ← match words with
    | [] => pure none
    | first :: rest =>
      match if first.startsWith "-" then signalOf? 1 (String.ofList (first.toList.drop 1)) else none with
      | some signal => pure (some (some signal, false, rest))
      | none => do
        let letters ← takeLetters ['l'] ['s'] words
        let signals ← (letters.found.filter fun found => found.1 == 's').mapM fun (_, name) => do
          match signalOf? 1 name with
          | some signal => return signal
          | none => Run.fail ("invalid signal number or name: " ++ name)
        pure (some (signals.getLast?, letters.has 'l', letters.operands))
  match start with
  | none | some (_, false, []) | some (some _, true, _) => Run.fail killUsage
  | some (none, true, []) =>
    emitLine "0"
    (signalKeys.drop 1).forM fun (_, key) => emitLine key
    return 0
  | some (none, true, word :: _) =>
    let n ← naturalOf word
    let n := if 128 < n then n - 128 else n
    match if 0 < n then signalKeys.lookup n else none with
    | some key =>
      emitLine key
      return 0
    | none => Run.fail ("invalid signal number or exit status: " ++ word)
  | some (signal, false, operands) =>
    let statuses ← operands.mapM (killNamed (signal.getD 15))
    return statuses.foldl max 0

end PassTuner.Toolbox.Shell

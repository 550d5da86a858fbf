import PassTuner.Toolbox.Number
import PassTuner.Toolbox.Shell.Session

/-! Signals: their names, what they do to a shell, and when they come in.

A process that was started beside others is run to its end at once, so what it sends to another may
belong to a later time than the one that the other has come to. Signals wait for that time. -/
namespace PassTuner.Toolbox.Shell

def signalTexts : List (Nat × String) :=
  [(1, "Hangup"), (2, "Interrupt"), (3, "Quit"), (4, "Illegal instruction"), (5, "Trace/breakpoint trap"),
   (6, "Aborted"), (7, "Bus error"), (8, "Floating point exception"), (9, "Killed"),
   (10, "User defined signal 1"), (11, "Segmentation fault"), (12, "User defined signal 2"),
   (13, "Broken pipe"), (14, "Alarm clock"), (15, "Terminated"), (16, "Stack fault"), (17, "Child exited"),
   (18, "Continued"), (19, "Stopped (signal)"), (20, "Stopped"), (21, "Stopped (tty input)"),
   (22, "Stopped (tty output)"), (23, "Urgent I/O condition"), (24, "CPU time limit exceeded"),
   (25, "File size limit exceeded"), (26, "Virtual timer expired"), (27, "Profiling timer expired"),
   (28, "Window changed"), (29, "I/O possible"), (30, "Power failure"), (31, "Bad system call")]

def signalText (signal : Nat) : String :=
  (signalTexts.lookup signal).getD ("Real-time signal " ++ toString (signal - 34))

/-- Names of signals by their numbers. One of them is known by its number only. -/
def signalKeys : List (Nat × String) :=
  (0, "EXIT") ::
    (signalNames.map fun (n, name) => (n, if n = 16 then "16" else String.ofList (name.toList.drop 3))) ++
    [(32, "32"), (33, "33"), (34, "RTMIN")] ++
    ((List.range 15).map fun i => (35 + i, "RTMIN+" ++ toString (i + 1))) ++
    ((List.range 14).map fun i => (50 + i, "RTMAX-" ++ toString (14 - i))) ++ [(64, "RTMAX")]

/-- How many signals there are, and the number that means none. -/
def signalCount : Nat := 65

def signalNumber? (word : String) : Option Nat :=
  if word.isEmpty || !word.toList.all Char.isDigit then none
  else
    let n := digitsIn 10 word.toList
    if n < signalCount then some n else none

/-- The signal of a word: its number, or its name in letters of any case. -/
def signalOf? (least : Nat) (word : String) : Option Nat :=
  match signalNumber? word with
  | some n => some n
  | none =>
    (signalKeys.find? fun (n, key) => decide (least ≤ n) && key.map Char.toUpper == word.map Char.toUpper).map
      Prod.fst

/-- Signals that nothing comes of unless they are asked for: those that tell of something, and those
that stop a process for a terminal that is not there. -/
def ignoredSignals : List Nat := [17, 18, 20, 21, 22, 23, 28]

/-- The command for a signal, if there is one. -/
def Interpreter.trap? (s : Interpreter) (signal : Nat) : Option String := s.traps.lookup signal

def Interpreter.hasTraps (s : Interpreter) : Bool := s.traps.any fun trap => !trap.2.isEmpty

def Interpreter.heeds (s : Interpreter) (signal : Nat) : Bool :=
  if signal = 0 then false
  else if signal = 9 ∨ signal = 19 then true
  else match s.trap? signal with
    | some command => !command.isEmpty
    | none => !ignoredSignals.contains signal

/-- The first signal that something comes of and that comes in up to a time, or ever. -/
def Session.interruption? (s : Session) (last : Option Nat) : Option Sent :=
  let heeded := s.world.sent.filter fun sent =>
    sent.process == s.shell.process && s.shell.heeds sent.signal &&
      last.all fun time => decide (sent.time ≤ time)
  (heeded.mergeSort fun a b => decide (a.time ≤ b.time)).head?

namespace Run

/-- What a signal does to the shell: it stops or ends it, or its command is to be run. -/
def receive (signal : Nat) : Run Unit := do
  let s ← shell
  if s.heeds signal then
    if signal = 19 then throw .endless
    else if signal = 9 || (s.trap? signal).isNone then throw (.killed signal)
    else modifyShell fun s => { s with
      pending := s.pending.filter (· < signal) ++ signal :: s.pending.filter (signal < ·) }

def receiveSent : Run Unit := do
  let s ← get
  let (due, later) := s.world.sent.partition fun sent =>
    sent.process == s.shell.process && decide (sent.time ≤ s.shell.now)
  if !due.isEmpty then
    modifyWorld fun w => { w with sent := later }
    (due.mergeSort fun a b => decide (a.time ≤ b.time)).forM fun sent => receive sent.signal

/-- Let time pass up to a time, unless a signal comes in before; tells which. -/
def pass (finish : Option Nat) : Run (Option Nat) := do
  let s ← get
  match s.interruption? finish, finish with
  | some sent, _ =>
    modifyShell fun s => { s with now := max s.now sent.time }
    receiveSent
    return some sent.signal
  | none, none => throw .endless
  | none, some finish =>
    modifyShell fun s => { s with now := max s.now finish }
    receiveSent
    return none

/-- How many steps are taken up to the next signal when all steps that were given have been. -/
def stepsBeside : Nat := 10000

/-- Time that a process computes is used up: that ends it. -/
def exceedTime (seconds : Nat) : Run Unit := do
  let hard := ((← shell).limits.find? fun limit => limit.letter == 't').map Limit.hard
  modifyShell fun s => { s with now := s.now + 1000 * seconds }
  throw (.killed (if hard = some seconds then 9 else 24))

/-- Take so many steps. A run of too many steps goes on until a signal comes in or its time is used up, and is
endless if nothing ends it. -/
def spend (count : Nat) : Run Unit := do
  let w ← world
  if w.steps < count then
    modifyWorld fun w => { w with steps := stepsBeside }
    let seconds := (← shell).limit 't'
    if seconds ≠ unlimited then exceedTime seconds
    let _ ← pass none
  else modifyWorld fun w => { w with steps := w.steps - count }

def step : Run Unit := spend 1

/-- Take steps for words, so that endless growth of texts is endless too. -/
def spendOn (words : List String) : Run Unit :=
  spend ((words.foldl (fun count word => count + word.length) 0) / 1000)

end Run

end PassTuner.Toolbox.Shell

import PassTuner.Toolbox.Basic
import PassTuner.Toolbox.Shell.Syntax

/-! What running commands work on: a shell, and the world that shells share.

Shells are processes. They run one after another here: one that is started beside others has a
clock of its own, and what it prints is put into order afterwards. -/
namespace PassTuner.Toolbox.Shell

open Text (Stream)

/-- Something printed: when, by which background job, and what. -/
structure Chunk where
  time : Nat
  job : Nat
  stream : Stream
  deriving DecidableEq, Repr

/-- What a descriptor stands for. -/
inductive Channel where
  /-- what is left to be read -/
  | source (left : Stream)
  /-- what was written, the last first -/
  | sink (written : List Chunk)
  /-- a file and how far it was read or written -/
  | file (place : Place) (offset : Nat) (reads writes appends : Bool)
  deriving DecidableEq, Repr

/-- A signal on its way to a process, and when it was sent. -/
structure Sent where
  process : Nat
  signal : Nat
  time : Nat
  deriving DecidableEq, Repr

/-- What all shells share. -/
structure World where
  files : Files
  channels : List (Nat × Channel)
  /-- when and how processes in the background end, if ever -/
  endings : List (Nat × Option (Nat × Ending))
  /-- signals that have not come in yet -/
  sent : List Sent
  /-- how many more steps are taken before a run counts as endless -/
  steps : Nat
  nextChannel : Nat
  nextProcess : Nat

structure Variable where
  value : Option String
  exported : Bool
  readonly : Bool
  deriving DecidableEq, Repr

/-- A job in the background: its number, its first process, and how many commands it consists of. -/
structure Job where
  number : Nat
  process : Nat
  members : Nat
  /-- the shell has taken note of its end -/
  noted : Bool
  /-- the script has waited for it -/
  waited : Bool
  deriving DecidableEq, Repr

/-- What a running function has made its own: variables, with what they were before; the options that
were set before, if they are its own; and a name among them that is none. -/
structure LocalFrame where
  saved : List (String × Option Variable)
  options : Option (List Char)
  wrong : Option String
  deriving DecidableEq, Repr

def LocalFrame.empty : LocalFrame := ⟨[], none, none⟩

/-- A limit of what a process may use, known by a letter: the one that holds, and the one up to which it may
be raised. -/
structure Limit where
  letter : Char
  soft : Nat
  hard : Nat
  deriving DecidableEq, Repr

def unlimited : Nat := 0xffffffffffffffff

structure Interpreter where
  /-- the name that complaints begin with -/
  name : String
  process : Nat
  /-- the process that scripts take for their own -/
  mainProcess : Nat
  /-- the process that started this one, the one that started that, and so on -/
  parents : List Nat
  job : Nat
  now : Nat
  bindings : List (String × Variable)
  /-- what functions that are being run have made their own, the innermost first -/
  locals : List LocalFrame
  arguments : List String
  functions : List (String × Command)
  /-- programs that were found on the path there is, the first one first -/
  remembered : List String
  options : List Char
  /-- commands by the number of the signal; empty, if the signal is ignored -/
  traps : List (Nat × String)
  /-- signals that have come in and wait for their commands, the least first -/
  pending : List Nat
  /-- the status before the command of a trap that is being run -/
  trapped : Option Nat
  descriptors : List (Nat × Nat)
  directory : Place
  /-- the path by which the directory was entered -/
  path : String
  status : Nat
  /-- the status of the output that was substituted last -/
  substituted : Nat
  lastBackground : Option Nat
  /-- the last one first -/
  jobs : List Job
  /-- the line that complaints give -/
  line : Nat
  /-- the command that is run, if it is one of the shell's own -/
  commandName : Option String
  /-- a command is being printed before it is run -/
  isTracing : Bool
  /-- how many loops and functions are being run -/
  loops : Nat
  calls : Nat
  aliases : List (String × String)
  documents : List (Nat × Word)
  nextDocument : Nat
  /-- the end of the text that was read last was met -/
  endMet : Bool
  /-- what the running command has printed, in reverse order -/
  printed : List Char
  mask : Nat
  limits : List Limit
  /-- the number of the argument whose options are read next, and how far one is read already -/
  optionIndex : Nat
  optionOffset : Option Nat

def Interpreter.limit (s : Interpreter) (letter : Char) : Nat :=
  ((s.limits.find? fun limit => limit.letter == letter).map Limit.soft).getD unlimited

/-- Where a shell keeps a name: in one of a number of rows, which are gone through in turn. -/
def rowOfName (rows : Nat) (name : String) : Nat :=
  let codes := name.toList.map Char.toNat
  codes.foldl (· + ·) (16 * codes.headD 0) % rows

structure Session where
  world : World
  shell : Interpreter

/-- Why a command does not go on. -/
inductive Stop where
  | exit (status : Nat)
  /-- a complaint was printed -/
  | fault
  /-- loops are left, or their next rounds begun -/
  | leave (loops : Nat)
  | again (loops : Nat)
  /-- a function or script is left, perhaps with a status that was given -/
  | return (isGiven : Bool)
  | killed (signal : Nat)
  | endless
  deriving DecidableEq, Repr

def Stop.isReturn : Stop → Bool
  | .return _ => true
  | _ => false

abbrev Run := ExceptT Stop (StateM Session)

namespace Run

def shell : Run Interpreter := do return (← get).shell

def world : Run World := do return (← get).world

def modifyShell (f : Interpreter → Interpreter) : Run Unit := modify fun s => { s with shell := f s.shell }

def modifyWorld (f : World → World) : Run Unit := modify fun s => { s with world := f s.world }

def setStatus (status : Nat) : Run Unit := modifyShell fun s => { s with status }

/-- Run with a part of the shell changed, which is put back whatever happens. -/
def restoring {α : Type} (putBack : Interpreter → Interpreter → Interpreter) (run : Run α) : Run α := do
  let before ← shell
  try
    let a ← run
    modifyShell (putBack before)
    return a
  catch stop =>
    modifyShell (putBack before)
    throw stop

/-! ### Channels -/

def newChannel (channel : Channel) : Run Nat := do
  let w ← world
  modifyWorld fun w => { w with
    channels := (w.nextChannel, channel) :: w.channels
    nextChannel := w.nextChannel + 1 }
  return w.nextChannel

def setChannel (number : Nat) (channel : Channel) : Run Unit :=
  modifyWorld fun w => { w with
    channels := w.channels.map fun entry => if entry.1 = number then (number, channel) else entry }

def channelOf? (descriptor : Nat) : Run (Option (Nat × Channel)) := do
  let s ← get
  return do
    let number ← s.shell.descriptors.lookup descriptor
    let channel ← s.world.channels.lookup number
    some (number, channel)

def setDescriptor (descriptor : Nat) (channel : Option Nat) : Run Unit :=
  modifyShell fun s =>
    let others := s.descriptors.filter fun entry => entry.1 != descriptor
    { s with descriptors := match channel with
      | some number => (descriptor, number) :: others
      | none => others }

/-- What is left to be read from a descriptor, and how long it is if it is a file. -/
def readAll (descriptor : Nat) : Run (Except FileError (Stream × Option Nat)) := do
  match ← channelOf? descriptor with
  | none => return .error .badDescriptor
  | some (_, .source left) => return .ok (left, none)
  | some (_, .sink _) => return .error .badDescriptor
  | some (_, .file place offset reads _ _) =>
    if !reads then return .error .badDescriptor
    match (← world).files.node? place with
    | none => return .ok (.empty, none)
    | some (.file content _) => return .ok (.ofText (content.drop offset), some (content.length - offset))
    | some node => return (Files.content node).map fun stream => (stream, none)

def leaveRest (descriptor : Nat) (rest : Stream) : Run Unit := do
  match ← channelOf? descriptor with
  | some (number, .source _) => setChannel number (.source rest)
  | some (number, .file place _ reads writes appends) =>
    match (← world).files.node? place with
    | some (.file content _) =>
      setChannel number (.file place (content.length - rest.text.length) reads writes appends)
    | _ => return
  | _ => return

/-- Files cannot grow any more: that ends a process, unless the signal for it is ignored or has a command. -/
def exceedSize : Run (Option FileError) := do
  match (← shell).traps.lookup 25 with
  | none => throw (.killed 25)
  | some command =>
    if !command.isEmpty then
      modifyShell fun s => { s with pending := s.pending.filter (· < 25) ++ 25 :: s.pending.filter (25 < ·) }
    return some .tooLarge

def write (descriptor : Nat) (stream : Stream) : Run (Option FileError) := do
  let s ← get
  match ← channelOf? descriptor with
  | none => return some .badDescriptor
  | some (_, .source _) => return some .badDescriptor
  | some (number, .sink written) =>
    if !(stream.text.isEmpty && !stream.isEndless) then
      setChannel number (.sink (⟨s.shell.now, s.shell.job, stream⟩ :: written))
    return none
  | some (number, .file place offset reads writes appends) =>
    if !writes then return some .badDescriptor
    match s.world.files.node? place with
    | some (.file content _) =>
      let start := if appends then content.length else offset
      let room := s.shell.limit 'f' - start
      let text := stream.text.take room
      let filled := content ++ List.replicate (start - content.length) (Char.ofNat 0)
      let after := filled.take start ++ text ++ filled.drop (start + text.length)
      match s.world.files.store place (if text.isEmpty then content else after) with
      | .error e => return some e
      | .ok files =>
        modifyWorld fun w => { w with files }
        setChannel number (.file place (start + text.length) reads writes appends)
        if room < stream.text.length then exceedSize else return none
    | some _ =>
      match s.world.files.store place stream.text with
      | .error e => return some e
      | .ok files =>
        modifyWorld fun w => { w with files }
        return none
    | none => return none

/-! ### Complaints -/

/-- Print for someone to see; what cannot be printed is lost. -/
def tell (text : String) : Run Unit := do
  let _ ← write 2 (.ofText text.toList)

/-- A line that names the shell, a line and the command, and complains. -/
def complainAt (line : Nat) (text : String) : Run Unit := do
  let s ← shell
  let command := match s.commandName with
    | some name => name ++ ": "
    | none => ""
  tell (s.name ++ ": " ++ toString line ++ ": " ++ command ++ text ++ "\n")

def complain (text : String) : Run Unit := do complainAt (← shell).line text

def fail {α : Type} (text : String) : Run α := do
  complain text
  setStatus 2
  throw .fault

/-- Print, when the command has ended. -/
def emit (text : List Char) : Run Unit :=
  modifyShell fun s => { s with printed := text.reverse ++ s.printed }

def hasOption (letter : Char) : Run Bool := do return (← shell).options.contains letter

end Run

/-! ### Variables -/

namespace Run

def named? (name : String) : Run (Option Variable) := do return (← shell).bindings.lookup name

def valueOf? (name : String) : Run (Option String) := do return (← named? name).bind Variable.value

def putVariable (name : String) (v : Variable) : Run Unit :=
  modifyShell fun s =>
    { s with bindings :=
      if s.bindings.any fun entry => entry.1 == name then
        s.bindings.map fun entry => if entry.1 == name then (name, v) else entry
      else (name, v) :: s.bindings }

/-- Give a variable a value; nothing, to take it away. -/
def assign (name : String) (value : Option String) : Run Unit := do
  let old := (← named? name).getD ⟨none, false, false⟩
  if old.readonly then fail (name ++ ": is read only")
  let exported := old.exported || (value.isSome && (← hasOption 'a'))
  if name = "OPTIND" then
    let index := ((value.getD "").toNat?).getD 1
    modifyShell fun s => { s with optionIndex := max 1 index, optionOffset := none }
  if name = "PATH" then modifyShell fun s => { s with remembered := [] }
  match value with
  | some _ => putVariable name { old with value, exported }
  | none => modifyShell fun s => { s with bindings := s.bindings.filter fun entry => entry.1 != name }

def assignExported (name value : String) : Run Unit := do
  assign name (some value)
  modifyShell fun s => { s with
    bindings := s.bindings.map fun (other, v) => (other, if other == name then { v with exported := true } else v) }

def assignNamed (name : String) (value : Option String) : Run Unit := do
  if !isName name.toList then fail (name ++ ": bad variable name")
  assign name value

def modifyLocals (f : LocalFrame → LocalFrame) : Run Unit :=
  modifyShell fun s => { s with
    locals := match s.locals with
      | frame :: rest => f frame :: rest
      | [] => [] }

/-- Remember what a variable is, to be put back when the running function ends. -/
def saveLocal (name : String) : Run Unit := do
  let old ← named? name
  modifyLocals fun frame =>
    if frame.saved.any fun entry => entry.1 == name then frame
    else { frame with saved := (name, old) :: frame.saved }

def dropLocals (s : Interpreter) : Interpreter :=
  match s.locals with
  | frame :: rest =>
    let kept := s.bindings.filter fun entry => !frame.saved.any fun own => own.1 == entry.1
    let back := frame.saved.filterMap fun (name, old) => old.map fun v => (name, v)
    { s with
      bindings := back ++ kept
      locals := rest
      options := frame.options.getD s.options
      remembered := if frame.saved.any fun own => own.1 == "PATH" then [] else s.remembered }
  | [] => s

/-- Run with variables of its own. A name among them that is none is found out at the end. -/
def withLocals {α : Type} (run : Run α) : Run α := do
  modifyShell fun s => { s with locals := .empty :: s.locals }
  try
    let a ← run
    let wrong := (← shell).locals.head?.bind LocalFrame.wrong
    modifyShell dropLocals
    if let some name := wrong then fail (name ++ ": bad variable name")
    return a
  catch stop =>
    modifyShell dropLocals
    throw stop

def environment : Run (List (String × String)) := do
  return (← shell).bindings.filterMap fun (name, v) =>
    if v.exported then v.value.map fun value => (name, value) else none

end Run

end PassTuner.Toolbox.Shell

import PassTuner.Toolbox.Lookup
import PassTuner.Toolbox.Options
import PassTuner.Toolbox.Shell.Process
import PassTuner.Toolbox.Tools.Waiting

/-! Programs that start another program: with another environment, or for a time. -/
namespace PassTuner.Toolbox.Shell

/-- Starts the program that words name, or tells why it cannot be started. -/
abbrev Start := List String → Run (Except FileError Unit)

def giveUp {α : Type} (name text : String) (status : Nat) : Run α := do
  Run.tell (name ++ ": " ++ text ++ "\n")
  throw (.exit status)

def printAndEnd {α : Type} (name : String) (text : List Char) : Run α := do
  match ← Run.write 1 (.ofText text) with
  | some e => giveUp name ("write error: " ++ e.message) 125
  | none => throw (.exit 0)

/-- Start a program, or complain that it cannot be started and end. -/
def Start.orGiveUp (start : Start) (name wanted : String) (words : List String) : Run Unit := do
  match ← start words with
  | .ok () => return
  | .error e =>
    giveUp name (wanted ++ quoteName (words.headD "") ++ ": " ++ e.message)
      (if e = .missing then 127 else 126)

def launchOptions (name : String) (known : List KnownOption) (words : List String) :
    Run (FoundOptions × List String) := do
  match splitOptions (knownName "help" .none :: known) false words with
  | .error e => giveUp name (e ++ "\n" ++ helpHint name) 125
  | .ok (options, operands) =>
    if options.has "help" then printAndEnd name (helpText name)
    return (options, operands)

/-- Give a variable to programs, or take it from them. -/
def setEnvironment (name : String) (value : Option String) : Run Unit :=
  Run.modifyShell fun s =>
    let others := s.bindings.filter fun entry => entry.1 != name
    { s with bindings := match value with
      | some value => others ++ [(name, ⟨some value, true, false⟩)]
      | none => others }

/-- Start a program with another environment, or print the environment. -/
def runWithEnvironment (name : String) (words : List String) (start : Start) : Run Unit := do
  let (options, operands) ← launchOptions name
    [knownAs 'i' "ignore-environment" .none, knownAs 'u' "unset" .required, knownAs '0' "null" .none,
     knownAs 'C' "chdir" .required] words
  let (isEmptied, operands) := match operands with
    | "-" :: rest => (true, rest)
    | operands => (options.has "i", operands)
  if isEmptied then
    Run.modifyShell fun s => { s with bindings := s.bindings.filter fun entry => !entry.2.exported }
  (options.values "u").forM fun key => do
    if key.isEmpty || key.toList.contains '=' then
      giveUp name ("cannot unset " ++ quoteName key ++ ": Invalid argument") 125
    setEnvironment key none
  let (settings, command) := operands.span fun word => word.toList.contains '='
  settings.forM fun setting =>
    let (key, value) := setting.toList.span (· != '=')
    setEnvironment (String.ofList key) (some (String.ofList (value.drop 1)))
  if options.has "0" && !command.isEmpty then
    giveUp name ("cannot specify --null (-0) with command\n" ++ helpHint name) 125
  match (options.values "C").getLast?, command with
  | some _, [] => giveUp name ("must specify command with --chdir (-C)\n" ++ helpHint name) 125
  | some path, _ =>
    let s ← get
    match s.world.files.locate s.shell.directory path with
    | .ok place =>
      if s.world.files.isDirectory place then Run.modifyShell fun s => { s with directory := place }
      else giveUp name ("cannot change directory to " ++ quoteName path ++ ": " ++
        (if (s.world.files.node? place).isSome then FileError.notDirectory else .missing).message) 125
    | .error e => giveUp name ("cannot change directory to " ++ quoteName path ++ ": " ++ e.message) 125
  | none, _ => pure ()
  if command.isEmpty then
    let mark := if options.has "0" then Char.ofNat 0 else '\n'
    let lines := (← Run.environment).flatMap fun (key, value) => (key ++ "=" ++ value).toList ++ [mark]
    printAndEnd name lines
  if (← Run.valueOf? "PATH").isNone then
    Run.putVariable "PATH" ⟨some (":".intercalate standardPath), false, false⟩
  start.orGiveUp name "" command

def forgetAfter (time : Nat) : Run Unit :=
  Run.modifyWorld fun w => { w with
    channels := w.channels.map fun (number, channel) =>
      match channel with
      | .sink written => (number, .sink (written.filter fun chunk => decide (chunk.time ≤ time)))
      | channel => (number, channel) }

/-- Start a program, and end it with a signal if it takes longer than an interval. -/
def runForTime (m : Machine) (name : String) (words : List String) (start : Start) : Run Unit := do
  let (options, operands) ← launchOptions name
    [knownAs 's' "signal" .required, knownAs 'k' "kill-after" .required, knownAs 'v' "verbose" .none,
     knownName "preserve-status" .none, knownName "foreground" .none] words
  let interval (word : String) : Run (Option Nat) := do
    match interval? word with
    | some interval => return interval
    | none => giveUp name ("invalid time interval " ++ quoteName word ++ "\n" ++ helpHint name) 125
  (options.values "k").forM fun word => do
    let _ ← interval word
  let named := (options.values "s").getLast?.getD "TERM"
  let bare := if named.startsWith "SIG" then String.ofList (named.toList.drop 3) else named
  let signal ← match signalOf? 0 bare with
    | some signal => pure signal
    | none => giveUp name (quoteName named ++ ": invalid signal\n" ++ helpHint name) 125
  match operands with
  | [] | [_] =>
    Run.tell (helpHint name ++ "\n")
    throw (.exit 125)
  | limit :: command =>
    let limit ← interval limit
    let begun := (← Run.shell).now
    let (ending, finish) ← child m id (start.orGiveUp name "failed to run command " command)
    let deadline := match limit with
      | none | some 0 => none
      | some ms => some (begun + ms)
    match ending, deadline with
    | none, none => throw .endless
    | some ending, none => await ending finish
    | ending, some deadline =>
      if ending.isSome && decide (finish ≤ deadline) then await ending finish
      else
        forgetAfter deadline
        Run.modifyShell fun s => { s with now := max s.now deadline }
        if options.has "v" then
          Run.tell (name ++ ": sending signal " ++ bare ++ " to command " ++ quoteName (command.headD "") ++ "\n")
        if signal = 9 then throw (.killed 9)
        throw (.exit (if options.has "preserve-status" then 128 + signal else 124))
    throw (.exit (← Run.shell).status)

/-- Start a program at another priority, which changes nothing. -/
def runNicely (name : String) (words : List String) (start : Start) : Run Unit := do
  let (options, command) ← launchOptions name [knownAs 'n' "adjustment" .required] words
  (options.values "n").forM fun word => do
    match readWhole? false word.toList with
    | some (_, []) => return
    | _ => giveUp name ("invalid adjustment " ++ quoteName word) 125
  if command.isEmpty then
    if options.has "n" then giveUp name ("a command must be given with an adjustment\n" ++ helpHint name) 125
    printAndEnd name ['0', '\n']
  start.orGiveUp name "" command

def launcher? (m : Machine) (program : String) : Option (String → List String → Start → Run Unit) :=
  match program with
  | "env" => some runWithEnvironment
  | "timeout" => some (runForTime m)
  | "nice" => some runNicely
  | _ => none

end PassTuner.Toolbox.Shell

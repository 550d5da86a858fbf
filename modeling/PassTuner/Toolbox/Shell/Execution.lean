import PassTuner.Toolbox.Shell.Builtin.Flow
import PassTuner.Toolbox.Shell.Builtin.Jobs
import PassTuner.Toolbox.Shell.Builtin.Limits
import PassTuner.Toolbox.Shell.Builtin.Places
import PassTuner.Toolbox.Shell.Builtin.Printing
import PassTuner.Toolbox.Shell.Builtin.Variables
import PassTuner.Toolbox.Shell.Reader

/-! Running commands.

Commands within commands are run by a machine of one level less, so that every run ends. A run that
takes more steps than are given counts as endless, and one that needs more levels than there are
has run out of memory. -/
namespace PassTuner.Toolbox.Shell

open Text (Stream)

/-- A command that does nothing, with a status. -/
def nothingWith (status : Nat) : Builtin := fun _ _ => return status

/-- The shell's own commands; `tested` if their failure is looked at. -/
def builtin? (tested : Bool) (name : String) : Option Builtin :=
  match name with
  | ":" | "true" => some (nothingWith 0)
  | "false" => some (nothingWith 1)
  | "echo" => some echoWith
  | "printf" => some printfWith
  | "test" => some (testWith false)
  | "[" => some (testWith true)
  | "cd" | "chdir" => some cdWith
  | "pwd" => some pwdWith
  | "umask" => some umaskWith
  | "type" => some typeWith
  | "command" => some commandWith
  | "export" => some exportWith
  | "readonly" => some readonlyWith
  | "local" => some localWith
  | "unset" => some unsetWith
  | "set" => some setWith
  | "shift" => some shiftWith
  | "read" => some readWith
  | "getopts" => some getoptsWith
  | "alias" => some aliasWith
  | "unalias" => some unaliasWith
  | "exit" => some exitWith
  | "return" => some returnWith
  | "break" => some (loopWith Stop.leave)
  | "continue" => some (loopWith Stop.again)
  | "eval" => some (evalWith tested)
  | "." => some sourceWith
  | "exec" => some execWith
  | "trap" => some trapWith
  | "kill" => some killWith
  | "wait" => some waitWith
  | "jobs" => some jobsWith
  | "bg" | "fg" => some controlWith
  | "hash" => some hashWith
  | "times" => some fun _ _ => do
    emitLine "0m0.000000s 0m0.000000s\n0m0.000000s 0m0.000000s"
    return 0
  | "ulimit" => some ulimitWith
  | _ => none

def takesAssignments (name : String) : Bool := ["alias", "export", "local", "readonly"].contains name

def isSpecial (name : String) : Bool := name == "local" || specialNames.contains name

/-! ### Simple commands -/

/-- Run one of the shell's own commands. What it prints is written when it has ended. -/
def runBuiltin (m : Machine) (name : String) (run : Builtin) (words : List String) : Run Unit := do
  let flush : Run Bool := do
    let printed := (← Run.shell).printed
    if printed.isEmpty then return true
    Run.modifyShell fun s => { s with printed := [] }
    match ← Run.write 1 (.ofText printed.reverse) with
    | none => return true
    | some _ =>
      Run.complain (name ++ ": I/O error")
      return false
  Run.restoring (fun before s => { s with commandName := before.commandName }) do
    Run.modifyShell fun s => { s with commandName := some name }
    try
      let status ← run m words
      let whole ← flush
      Run.setStatus (if whole || status != 0 then status else 1)
    catch stop =>
      let _ ← flush
      throw stop

def mostCalls : Nat := 1000

def callFunction (m : Machine) (tested : Bool) (body : Command) (arguments : List String) : Run Unit := do
  if mostCalls ≤ (← Run.shell).calls then
    Run.fail ("Maximum function recursion depth (" ++ toString mostCalls ++ ") reached")
  Run.restoring (fun before s => { s with
      arguments := before.arguments, loops := before.loops, calls := before.calls
      optionIndex := before.optionIndex, optionOffset := before.optionOffset }) do
    Run.modifyShell fun s => { s with
      arguments, loops := 0, calls := s.calls + 1, optionIndex := 1, optionOffset := none }
    try m.run tested false body
    catch stop => if !stop.isReturn then throw stop

/-- Expand words until there is a field; returns also the words left. -/
def expandFirst (m : Machine) : List Word → Run (List String × List Word)
  | [] => return ([], [])
  | word :: rest => do
    match ← expandFields m word with
    | [] => expandFirst m rest
    | fields => return (fields, rest)

/-- The words behind `command` and its options, if a command follows. -/
def behindOptions : List String → Option (List String)
  | [] => none
  | word :: rest =>
    if word = "--" then if rest.isEmpty then none else some rest
    else match word.toList with
      | '-' :: c :: letters => if (c :: letters).all (· == 'p') then behindOptions rest else none
      | _ => some (word :: rest)

/-- The words behind `command`, which may stand more than once, and its options. The words are counted down
by `fuel`. -/
def behindCommand : Nat → List String → Option (List String)
  | 0, _ => none
  | fuel + 1, words =>
    match behindOptions words with
    | some ("command" :: rest) => some ((behindCommand fuel rest).getD ("command" :: rest))
    | behind => behind

/-- What stands in front of a command that is printed before it is run: a variable whose value is expanded
like a document, or stands as it is if it cannot be. -/
def traceLead (m : Machine) : Run String := do
  let text := (← Run.valueOf? "PS4").getD ""
  let s ← Run.shell
  match Script.readDocument ⟨text.toList, s.line, s.nextDocument, s.aliases, []⟩ s.endMet with
  | .error e =>
    Run.modifyShell fun s => { s with endMet := false }
    Run.complainAt e.line ("Syntax error: " ++ e.message)
    return text
  | .ok document =>
    Run.modifyShell fun s => { s with
      documents := document.documents ++ s.documents
      nextDocument := document.nextDocument
      endMet := document.endMet }
    try return String.ofList (← expandDocument m document.word)
    catch stop => if stop = .fault then return text else throw stop

/-- Print the words of a command before it is run, if asked for. Nothing is printed for the commands that
this takes. -/
def trace (m : Machine) (before : Interpreter) (words : List String) : Run Unit := do
  if (← Run.hasOption 'x') && !(← Run.shell).isTracing then
    Run.restoring (fun now s => { s with descriptors := now.descriptors, isTracing := false, line := now.line }) do
      Run.modifyShell fun s => { s with descriptors := before.descriptors, isTracing := true }
      let lead ← traceLead m
      Run.tell (lead ++ " ".intercalate words ++ "\n")

/-- Assign what words say; as the running command's own, which programs see, or for good. -/
def assignAll (m : Machine) (isLocal : Bool) (exported : Bool) : List Word → Run (List String)
  | [] => return []
  | word :: rest => do
    let text ← expandText m Purpose.assignment word
    Run.spendOn [text]
    let (name, value) := splitAssignment text
    if isLocal then Run.saveLocal name
    Run.assign name value
    if isLocal || exported then
      match ← Run.named? name with
      | some v => Run.putVariable name { v with exported := true }
      | none => pure ()
    return text :: (← assignAll m isLocal exported rest)

/-- Run a program: as the process itself if nothing is to be done after it, and beside it
otherwise. -/
def runExternal (m : Machine) (last : Bool) (words : List String) : Run Unit := do
  let name := words.headD ""
  let s ← Run.shell
  let start : Run Unit := do
    if last && !s.hasTraps then runNamed m words
    else
      let (ending, finish) ← child m id (runNamed m words)
      await ending finish
  if name.toList.contains '/' then start
  else match ← lookUpToRemember name with
    | .ok _ => start
    | .error e =>
      Run.complain (name ++ ": " ++ startMessage e)
      Run.setStatus 127

def runSimple (m : Machine) (tested last : Bool) (line : Nat) (assignments words : List Word)
    (redirections : List Redirection) : Run Unit := do
  Run.step
  Run.modifyShell fun s => { s with line, substituted := 0 }
  let before ← Run.shell
  let (first, rest) ← expandFirst m words
  let isFunction (name : String) : Bool := before.functions.any fun entry => entry.1 == name
  let isPassedOn := first.head? == some "command" && !isFunction "command"
  let plainRest ← if isPassedOn then do
      let fields ← rest.mapM fun word =>
        if isAssignment word then do return [← expandText m Purpose.assignment word] else expandFields m word
      pure fields.flatten
    else do
      let takes := first.head?.any fun name => takesAssignments name && !isFunction name
      let fields ← rest.mapM fun word =>
        if takes && isAssignment word then do return [← expandText m Purpose.assignment word]
        else expandFields m word
      pure fields.flatten
  let all := first ++ plainRest
  Run.spendOn all
  let behind := if isPassedOn then behindCommand all.length (all.drop 1) else none
  let argv := behind.getD all
  let name := argv.headD ""
  let special := !isPassedOn && isSpecial name && !isFunction name
  let redirected ← redirections.mapM (expandRedirection m)
  let failed : Run Unit := do
    Run.setStatus 2
    if special then throw .fault
  let run : Run Unit := do
    match argv with
    | [] =>
      let texts ← assignAll m false false assignments
      trace m before texts
      Run.setStatus (← Run.shell).substituted
    | name :: arguments =>
      let isLocal := !special
      let go : Run Unit := do
        let texts ← assignAll m isLocal (name == "exec" && !arguments.isEmpty) assignments
        trace m before (texts ++ all)
        match if isPassedOn then none else before.functions.lookup name, builtin? tested name with
        | some body, _ => callFunction m tested body arguments
        | none, some builtin =>
          if special then runBuiltin m name builtin arguments
          else
            try runBuiltin m name builtin arguments
            catch stop =>
              if stop ≠ .fault then throw stop
              Run.setStatus 2
        | none, none => runExternal m last argv
      if isLocal then Run.withLocals go else go
  if name = "exec" && argv.length ≤ 1 && !isPassedOn then
    if ← redirectAll m redirected then run
    else
      Run.modifyShell fun s => { s with descriptors := before.descriptors }
      failed
  else withRedirected m redirected run failed

/-! ### Commands of commands -/

/-- Run the rounds of a loop; `status` is that of the body so far. The rounds are counted down. -/
def runRounds (m : Machine) (tested endsWell : Bool) (test body : Command) : Nat → Nat → Run Unit
  | 0, _ => throw .endless
  | fuel + 1, status => do
    Run.step
    let next : Option Nat ← try
        m.run true false test
        if ((← Run.shell).status == 0) == endsWell then
          try
            m.run tested false body
            pure (some (← Run.shell).status)
          catch stop =>
            match stop with
            | .again 1 => pure (some (← Run.shell).status)
            | stop => throw stop
        else
          Run.setStatus status
          pure none
      catch stop =>
        match stop with
        | .leave 1 => pure none
        | .leave n => throw (.leave (n - 1))
        | .again 1 => pure (some status)
        | .again n => throw (.again (n - 1))
        | stop => throw stop
    match next with
    | some status => runRounds m tested endsWell test body fuel status
    | none => return

/-- Run the body of an iteration for one value after another. -/
def runIteration (m : Machine) (tested : Bool) (name : String) (body : Command) : List String → Run Unit
  | [] => return
  | value :: rest => do
    Run.step
    Run.assign name (some value)
    let goesOn ← try
        m.run tested false body
        pure true
      catch stop =>
        match stop with
        | .leave 1 => pure false
        | .leave n => throw (.leave (n - 1))
        | .again 1 => pure true
        | .again n => throw (.again (n - 1))
        | stop => throw stop
    if goesOn then runIteration m tested name body rest

def inLoop (run : Run Unit) : Run Unit :=
  Run.restoring (fun before s => { s with loops := before.loops }) do
    Run.modifyShell fun s => { s with loops := s.loops + 1 }
    run

def runBranches (m : Machine) (tested last : Bool) (subject : List Char) :
    List (List Word × Command) → Run Unit
  | [] => Run.setStatus 0
  | (patterns, body) :: rest => do
    if ← patterns.anyM fun pattern => do return matchesPattern (← expandPattern m pattern) subject then
      match body with
      | .sequence [] => Run.setStatus 0
      | body => m.run tested last body
    else runBranches m tested last subject rest

/-- What was written to a channel, in the order of time. -/
def collect (channel : Nat) : Run Stream := do
  match (← Run.world).channels.lookup channel with
  | some (.sink written) =>
    let chunks := written.reverse.mergeSort fun a b => decide (a.time ≤ b.time)
    return Stream.join (chunks.map Chunk.stream)
  | _ => return .empty

def drop (channel : Nat) : Run Unit :=
  Run.modifyWorld fun w => { w with channels := w.channels.filter fun entry => entry.1 != channel }

/-- Look up in advance what a command of a pipeline is run by. -/
def lookAhead : Command → Run Unit
  | .simple _ _ (word :: _) _ => do
    match plainText? word with
    | some name =>
      let isOwn := (← Run.shell).functions.any fun entry => entry.1 == String.ofList name
      if isName name && !isOwn && !ownNames.contains (String.ofList name) then
        let _ ← lookUpToRemember (String.ofList name)
    | none => return
  | _ => return

/-- Run the commands of a pipeline, each with what the one before has printed. They all begin at the
same time. A command that prints without end is stopped when no one reads it any more. -/
def runPipes (m : Machine) (tested : Bool) (start : Nat) : Option Stream → List Command → Run Unit
  | _, [] => return
  | input, command :: rest => do
    let source ← match input with
      | some stream => some <$> Run.newChannel (.source stream)
      | none => pure none
    let sink ← if rest.isEmpty then pure none else some <$> Run.newChannel (.sink [])
    let place (s : Interpreter) : Interpreter :=
      let read := match source with
        | some channel => (0, channel) :: s.descriptors.filter fun entry => entry.1 != 0
        | none => s.descriptors
      let write := match sink with
        | some channel => (1, channel) :: read.filter fun entry => entry.1 != 1
        | none => read
      { s with descriptors := write, now := start }
    let (ending, finish) ← child m place (m.run tested true command)
    match source with
    | some channel => drop channel
    | none => pure ()
    match sink with
    | none => await ending finish
    | some channel =>
      let printed ← collect channel
      drop channel
      let isSilent := printed.text.isEmpty && !printed.isEndless
      let printed := if ending.isNone && !printed.isEndless then ⟨printed.text, printed.text⟩ else printed
      Run.modifyShell fun s => { s with now := max s.now (if ending.isNone then 0 else finish) }
      runPipes m tested start (some printed) rest
      if ending.isNone && isSilent then throw .endless
      ending.forM tellEnding

/-- Run something in the background that consists of so many commands. It reads nothing. -/
def runBackground (m : Machine) (members : Nat) (run : Run Unit) : Run Unit := do
  let s ← get
  let process := s.world.nextProcess
  let nothing ← Run.newChannel (.file ["dev", "null"] 0 true true false)
  let place (s : Interpreter) : Interpreter :=
    { s with
      descriptors := (0, nothing) :: s.descriptors.filter fun entry => entry.1 != 0
      now := s.now + 1
      job := process }
  let (ending, finish) ← child m place run
  Run.modifyWorld fun w => { w with
    endings := (process, ending.map fun ending => (finish, ending)) :: w.endings }
  addJob process members
  Run.modifyShell fun s => { s with lastBackground := some process, status := 0 }

def runCommand (m : Machine) (tested last : Bool) (command : Command) : Run Unit := do
  if ← Run.hasOption 'n' then return
  runPending m
  let checked (run : Run Unit) : Run Unit := do
    run
    runPending m
    let s ← Run.shell
    if s.options.contains 'e' && !tested && s.status != 0 then throw (.exit s.status)
  let atLine (line : Nat) : Run Unit := Run.modifyShell fun s => { s with line }
  match command with
  | .simple line assignments words redirections =>
    checked (runSimple m tested last line assignments words redirections)
  | .pipeline commands background =>
    let pipes : Run Unit := do
      commands.forM lookAhead
      runPipes m tested (← Run.shell).now none commands
    if background then runBackground m commands.length pipes else checked pipes
  | .negated command =>
    m.run true false command
    let status := (← Run.shell).status
    Run.setStatus (if status = 0 then 1 else 0)
  | .both left right =>
    m.run true false left
    if (← Run.shell).status = 0 then m.run tested last right
  | .either left right =>
    m.run true false left
    if (← Run.shell).status ≠ 0 then m.run tested last right
  | .sequence commands =>
    commands.dropLast.forM (m.run tested false)
    match commands.getLast? with
    | some command => m.run tested last command
    | none => return
  | .background line command redirections =>
    if 0 < line then atLine line
    let redirected ← redirections.mapM (expandRedirection m)
    runBackground m 1 (withRedirected m redirected (m.run false true command) (throw .fault))
  | .subshell line command redirections =>
    atLine line
    let redirected ← redirections.mapM (expandRedirection m)
    let body : Run Unit := withRedirected m redirected (m.run tested true command) (throw .fault)
    if last && !(← Run.shell).hasTraps then
      body
      throw (.exit (← Run.shell).status)
    else
      checked do
        let (ending, finish) ← child m id body
        await ending finish
  | .redirected line command redirections =>
    atLine line
    let redirected ← redirections.mapM (expandRedirection m)
    withRedirected m redirected (m.run tested false command) (checked (Run.setStatus 2))
  | .conditional test body other =>
    m.run true false test
    if (← Run.shell).status = 0 then m.run tested last body
    else match other with
      | .sequence [] => Run.setStatus 0
      | other => m.run tested last other
  | .loop endsWell test body => inLoop (runRounds m tested endsWell test body ((← Run.world).steps + 1) 0)
  | .iteration line name words body =>
    atLine line
    let fields ← words.mapM (expandFields m)
    match fields.flatten with
    | [] => Run.setStatus 0
    | values => inLoop (runIteration m tested name body values)
  | .choice line subject branches =>
    atLine line
    let text ← expandText m Purpose.text subject
    runBranches m tested last text.toList branches
  | .definition _ name body =>
    Run.modifyShell fun s => { s with
      functions := (name, body) :: s.functions.filter fun entry => entry.1 != name
      status := 0 }
  runPending m

/-- The lines of a text that are not left as a whole. -/
def linesBefore (left text : List Char) : List Char :=
  let read := text.take (text.length - left.length)
  if read.getLast? = some '\n' then read
  else
    let rest := text.drop read.length
    read ++ rest.takeWhile (· != '\n') ++ if rest.contains '\n' then ['\n'] else []

/-- Tell lines of a script that were read, if that is asked for. -/
def echoRead (source : ScriptSource) (left text : List Char) : Run Unit := do
  if source = .lines && (← Run.hasOption 'v') then Run.tell (String.ofList (linesBefore left text))

/-- Run the lines of a script; `status` is that of the commands so far. The lines are counted down. -/
def runLines (m : Machine) (tested : Bool) (source : ScriptSource) : Nat → Script → Nat → Run Unit
  | 0, _, status => Run.setStatus status
  | fuel + 1, script, status => do
    let s ← Run.shell
    match Script.readLine { script with nextDocument := s.nextDocument, aliases := s.aliases } with
    | .error e =>
      echoRead source e.left script.text
      Run.modifyShell fun s => { s with line := e.line }
      Run.fail ("Syntax error: " ++ e.message)
    | .ok (none, _) =>
      echoRead source [] script.text
      Run.modifyShell fun s => { s with status, endMet := true }
    | .ok (some line, left) =>
      echoRead source left.text script.text
      Run.modifyShell fun s => { s with
        nextDocument := left.nextDocument
        documents := line.documents ++ s.documents
        endMet := line.endsText }
      if line.commands.isEmpty then runLines m tested source fuel left status
      else
        m.run tested false (.sequence line.commands)
        runLines m tested source fuel left (← Run.shell).status

/-- What commands print, without line ends at its end. -/
def outputOf (m : Machine) (commands : List Command) : Run (List Char) := do
  let status := (← Run.shell).status
  let sink ← Run.newChannel (.sink [])
  let place (s : Interpreter) : Interpreter :=
    { s with descriptors := (1, sink) :: s.descriptors.filter fun entry => entry.1 != 1 }
  let (ending, finish) ← child m place (m.run false true (.sequence commands))
  let printed ← collect sink
  drop sink
  await ending finish
  if printed.isEndless then throw .endless
  Run.modifyShell fun s => { s with substituted := s.status, status }
  let text := printed.text.filter fun c => c.toNat != 0
  return (text.reverse.dropWhile (· == '\n')).reverse

def machine (tools : String → Option Tool) : Nat → Machine
  | 0 =>
    let stop {α : Type} : Run α := throw (.killed 11)
    ⟨fun _ _ _ => stop, fun _ _ _ => stop, fun _ _ _ => stop, fun _ => stop, tools⟩
  | n + 1 =>
    let m := machine tools n
    { run := runCommand m
      runText := fun tested source text => runLines m tested source (text.length + 1) ⟨text.toList, 1, 0, [], []⟩ 0
      expand := expandInner m
      outputOf := outputOf m
      tools }

end PassTuner.Toolbox.Shell

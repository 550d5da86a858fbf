import PassTuner.Toolbox.Shell.Launch

/-! Running programs from a shell: tools, and other shells. -/
namespace PassTuner.Toolbox.Shell

open Text (Stream)

/-! ### Tools -/

/-- What a program complains that cannot print, under the name that it was called by, and its
status. -/
def printFailure (program name : String) (isClosed : Bool) (e : FileError) : String × Nat :=
  let text :=
    match program with
    | "wc" => if isClosed then ": write error: " ++ e.message else ": write error"
    | "yes" => ": standard output: " ++ e.message
    | "tee" => ": 'standard output': " ++ e.message
    | _ => ": write error: " ++ e.message
  (name ++ text, if program = "grep" then 2 else 1)

/-- Hand on what was written for someone to see by its path. -/
def handOnShown (name : String) (descriptor : Nat) : Run Unit := do
  match (← Run.world).files.node? ["dev", name] with
  | some (.console written) =>
    if !written.isEmpty then
      let _ ← Run.write descriptor (.ofText written)
  | _ => return

/-- Print what a tool has printed, on its output only if nothing went wrong there before; tells what
goes wrong. -/
def printChunks : Option FileError → List (Outlet × Stream) → Run (Option FileError)
  | failure, [] => return failure
  | failure, (.errors, stream) :: rest => do
    let _ ← Run.write 2 stream
    printChunks failure rest
  | failure, (.output, stream) :: rest => do
    if failure.isSome || (stream.text.isEmpty && !stream.isEndless) then printChunks failure rest
    else
      let failure ← Run.write 1 stream
      printChunks failure rest

/-- Run a tool to its end, in the process that runs. -/
def runTool (tool : Tool) (program name : String) (words : List String) : Run Unit := do
  let s ← get
  let isClosed (descriptor : Nat) : Bool := !s.shell.descriptors.any fun entry => entry.1 == descriptor
  let (input, inputError, inputSize) := match ← Run.readAll 0 with
    | .ok (stream, size) => (stream, none, size)
    | .error e => (.empty, some e, none)
  let before := s.world.files
  let files := (before.put ["dev", "stdout"] (.console [])).put ["dev", "stderr"] (.console [])
  let environment ← Run.environment
  let r := tool {
    name, words, environment, input, inputError, inputSize, files
    inputClosed := isClosed 0
    outputClosed := isClosed 1
    directory := s.shell.directory }
  if r.left ≠ input then Run.leaveRest 0 r.left
  Run.modifyWorld fun w => { w with files := r.files }
  let failure ← printChunks none r.printed
  handOnShown "stdout" 1
  handOnShown "stderr" 2
  [["dev", "stdout"], ["dev", "stderr"]].forM fun place =>
    match before.node? place with
    | some node => Run.modifyWorld fun w => { w with files := w.files.put place node }
    | none => return
  match r.milliseconds with
  | none =>
    if failure.isNone then throw .endless
  | some ms => Run.modifyShell fun s => { s with now := s.now + ms }
  match failure, r.ending with
  | some e, _ =>
    let (text, status) := printFailure program name (isClosed 1) e
    Run.tell (text ++ "\n")
    throw (.exit status)
  | none, .exited status => throw (.exit status)
  | none, .killed signal => throw (.killed signal)

/-! ### Shells -/

/-- Names of options, with their letters; those without one change nothing. -/
def optionNames : List (String × Char) :=
  [("errexit", 'e'), ("noglob", 'f'), ("ignoreeof", 'I'), ("interactive", 'i'), ("monitor", 'm'),
   ("noexec", 'n'), ("stdin", 's'), ("xtrace", 'x'), ("verbose", 'v'), ("vi", 'V'), ("emacs", 'E'),
   ("noclobber", 'C'), ("allexport", 'a'), ("notify", 'b'), ("nounset", 'u'), ("privileged", 'p')]

/-- Change an option, as far as that can be: jobs need a terminal to be under control, and there is none. -/
def changeOption (letter : Char) (value : Bool) : Run Unit := do
  let isRefused := letter == 'm' && value
  if isRefused then Run.complain "can't access tty; job control turned off"
  Run.modifyShell fun s =>
    let others := s.options.filter (· != letter)
    { s with options := if value && !isRefused then letter :: others else others }

/-- Set an option of a letter, or take it away. Of the two ways of editing only one is set. -/
def setOption (letter : Char) (value : Bool) : Run Unit := do
  if !optionLetters.contains letter then Run.fail ("Illegal option -" ++ String.singleton letter)
  let other? := [('V', 'E'), ('E', 'V')].lookup letter
  if let (some other, true) := (other?, value) then
    Run.modifyShell fun s => { s with options := s.options.filter (· != other) }
  changeOption letter value

def setOptionNamed (name : String) (value : Bool) : Run Unit := do
  match optionNames.lookup name with
  | some letter => changeOption letter value
  | none =>
    if name ≠ "nolog" ∧ name ≠ "debug" then Run.fail ("Illegal option -o " ++ name)

/-- Options that are set, one after another, as they are listed. -/
def listOptions (asCommands : Bool) : Run (List Char) := do
  let options := (← Run.shell).options
  let line (name : String) (value : Bool) : String :=
    if asCommands then "set " ++ (if value then "-o " else "+o ") ++ name ++ "\n"
    else name ++ String.ofList (List.replicate (16 - name.length) ' ') ++ (if value then "on" else "off") ++ "\n"
  let lines := (optionNames.map fun (name, letter) => line name (options.contains letter)) ++
    [line "nolog" false, line "debug" false]
  return ((if asCommands then "" else "Current option settings\n") ++ String.join lines).toList

/-- What the words of a shell or of `set` ask for. -/
structure Asked where
  /-- the first operand is a script -/
  isCommand : Bool
  /-- the options were ended by a mark -/
  ended : Bool
  operands : List String

/-- Set the options that words ask for. Those for starting a shell know one more. The words are counted
down by `fuel`. -/
def takeOptions (starting : Bool) : Nat → List String → Asked → Run Asked
  | 0, words, asked => return { asked with operands := words }
  | _ + 1, [], asked => return { asked with operands := [] }
  | fuel + 1, word :: rest, asked => do
    match word.toList with
    | ['-'] =>
      if !starting then
        setOption 'x' false
        setOption 'v' false
      return { asked with operands := rest, ended := false }
    | ['-', '-'] => return { asked with operands := rest, ended := true }
    | sign :: letters =>
      if sign ≠ '-' ∧ sign ≠ '+' then return { asked with operands := word :: rest }
      let value := sign == '-'
      let isCommand := starting && letters.contains 'c'
      let named := letters.contains 'o'
      (letters.filter fun c => c != 'o' && !(starting && (c == 'c' || c == 'l'))).forM fun c => setOption c value
      let asked := { asked with isCommand := asked.isCommand || isCommand }
      match named, rest with
      | true, name :: rest =>
        setOptionNamed name value
        takeOptions starting fuel rest asked
      | true, [] =>
        Run.emit (← listOptions (!value))
        return { asked with operands := [] }
      | false, _ => takeOptions starting fuel rest asked
    | [] => return { asked with operands := word :: rest }

def pathOfPlace (place : Place) : String := "/" ++ "/".intercalate place

def firstVariables (environment : List (String × String)) (path : String) (parent : Nat) :
    List (String × Variable) :=
  let known := environment.filter fun entry =>
    isName entry.1.toList && !(["IFS", "OPTIND", "PPID", "PWD"].contains entry.1)
  let own := [("IFS", " \t\n"), ("OPTIND", "1"), ("PS1", "# "), ("PS2", "> "), ("PS4", "+ "),
    ("PATH", ":".intercalate standardPath)].filter fun entry => (known.lookup entry.1).isNone
  [("PWD", ⟨some path, true, false⟩), ("PPID", ⟨some (toString parent), false, false⟩)] ++
    known.reverse.map (fun (name, value) => (name, ⟨some value, true, false⟩)) ++
    own.map fun (name, value) => (name, ⟨some value, false, false⟩)

/-- The path by which a shell is in a directory as it begins: the one that its environment gives, if it
leads there. -/
def firstPath (files : Files) (environment : List (String × String)) (directory : Place) : String :=
  match environment.lookup "PWD" with
  | some path =>
    if path.startsWith "/" && (files.locate directory path).toOption == some directory then path
    else pathOfPlace directory
  | none => pathOfPlace directory

def firstLimits : List Limit :=
  [⟨'t', unlimited, unlimited⟩, ⟨'f', unlimited, unlimited⟩, ⟨'d', unlimited, unlimited⟩,
   ⟨'s', 0x800000, unlimited⟩, ⟨'c', 0, unlimited⟩, ⟨'m', unlimited, unlimited⟩, ⟨'l', 0x800000, 0x800000⟩,
   ⟨'p', unlimited, unlimited⟩, ⟨'n', 0x100000, 0x100000⟩, ⟨'v', unlimited, unlimited⟩,
   ⟨'w', unlimited, unlimited⟩, ⟨'r', 0, 0⟩]

def Interpreter.begin (name : String) (process : Nat) (parents : List Nat) (now : Nat)
    (environment : List (String × String)) (descriptors : List (Nat × Nat)) (directory : Place) (path : String) :
    Interpreter where
  name := name
  process := process
  mainProcess := process
  parents := parents
  job := 0
  now := now
  bindings := firstVariables environment path (parents.headD 1)
  locals := []
  arguments := []
  functions := []
  remembered := []
  options := []
  traps := []
  pending := []
  trapped := none
  descriptors := descriptors
  directory := directory
  path := path
  status := 0
  substituted := 0
  lastBackground := none
  jobs := []
  line := 0
  commandName := none
  isTracing := false
  loops := 0
  calls := 0
  aliases := []
  documents := []
  nextDocument := 0
  endMet := false
  printed := []
  mask := 18
  limits := firstLimits
  optionIndex := 1
  optionOffset := none

def readScript : Run String := do
  match ← Run.readAll 0 with
  | .ok (stream, _) =>
    if stream.isEndless then throw .endless
    Run.leaveRest 0 .empty
    return String.ofList stream.text
  | .error _ => return ""

def scriptOf (path : String) : Run String := do
  let s ← get
  match s.world.files.find s.shell.directory path with
  | .error e => Run.fail ("cannot open " ++ path ++ ": " ++ openMessage false e)
  | .ok _ =>
    match s.world.files.read s.shell.directory path with
    | .ok stream => if stream.isEndless then throw .endless else return String.ofList stream.text
    | .error _ => return ""

/-- What a shell does with its words: the first is a script, or names one, or there is none and the
input is one. -/
def runWords (m : Machine) (words : List String) : Run Unit := do
  let asked ← takeOptions true words.length words ⟨false, false, []⟩
  match asked.isCommand, asked.operands with
  | true, [] => Run.fail "-c requires an argument"
  | true, script :: operands =>
    match operands with
    | name :: arguments => Run.modifyShell fun s => { s with name, arguments }
    | [] => pure ()
    m.runText false .text script
    if ← Run.hasOption 's' then m.runText false .lines (← readScript)
  | false, operands =>
    match operands, ← Run.hasOption 's' with
    | path :: arguments, false =>
      let script ← if (descriptorOfPath? path) = some 0 then readScript else scriptOf path
      Run.modifyShell fun s => { s with name := path, arguments }
      m.runText false .lines script
    | arguments, _ =>
      Run.modifyShell fun s => { s with arguments }
      m.runText false .lines (← readScript)

/-- Run another shell to its end, in the process that runs. -/
def runShell (m : Machine) (name : String) (words : List String) : Run Unit := do
  let s ← Run.shell
  let environment ← Run.environment
  let path := firstPath (← Run.world).files environment s.directory
  Run.modifyShell fun s => { Interpreter.begin name s.process s.parents s.now environment s.descriptors s.directory path with
    job := s.job, mask := s.mask, limits := s.limits, traps := s.traps.filter fun trap => trap.2.isEmpty }
  let ending ← (concludeWith m (runWords m words) : Run (Option Ending))
  Run.modifyShell fun after => { s with now := after.now, traps := [] }
  match ending with
  | none => throw .endless
  | some (.exited status) => throw (.exit status)
  | some (.killed signal) => throw (.killed signal)

/-! ### Programs -/

def isShell (name : String) : Bool := name == "sh" || name == "dash"

def searchPath : Run (List String) := do
  return ((← Run.valueOf? "PATH").getD "").splitOn ":"

def lookUp (name : String) : Run (Except FileError Runnable) := do
  let path ← searchPath
  let s ← get
  return if name.isEmpty then .error .denied else findProgram s.world.files s.shell.directory path name

def pathOf? (name : String) : Run (Option String) := do
  let path ← searchPath
  let s ← get
  return if name.toList.contains '/' then
      if (runnableAt s.world.files s.shell.directory name).isOk then some name else none
    else path.findSome? fun start =>
      let whole := if start.isEmpty then name else start ++ "/" ++ name
      if (runnableAt s.world.files s.shell.directory whole).isOk then some whole else none

/-- Look a program up and remember it, unless it is given by its path. -/
def lookUpToRemember (name : String) : Run (Except FileError Runnable) := do
  let found ← lookUp name
  if found.isOk && !name.toList.contains '/' then
    Run.modifyShell fun s => { s with
      remembered := if s.remembered.contains name then s.remembered else s.remembered ++ [name] }
  return found

/-- Run what is to be run, to its end, in the process that runs. Programs that start others are counted
down. -/
def runFound (m : Machine) : Nat → Runnable → String → List String → Run Unit
  | 0, _, _, _ => throw .endless
  | fuel + 1, runnable, path, words => do
    let name := words.headD ""
    let start : Start := fun words => do
      match ← lookUp (words.headD "") with
      | .ok found =>
        runFound m fuel found ((← pathOf? (words.headD "")).getD "") words
        return .ok ()
      | .error e => return .error (if (words.headD "").isEmpty then .missing else e)
    let installed (program name : String) (words : List String) : Run Unit :=
      if isShell program then runShell m name words
      else match launcher? m program, m.tools program with
        | some launch, _ => launch name words start
        | none, some tool => runTool tool program name words
        | none, none => do
          Run.complain (name ++ ": not found")
          throw (.exit 127)
    match runnable with
    | .installed program => installed program name (words.drop 1)
    | .script text =>
      match interpreter? text with
      | none => runShell m name (path :: words.drop 1)
      | some (interpreter, arguments) =>
        let s ← get
        match runnableAt s.world.files s.shell.directory interpreter with
        | .ok (.installed program) => installed program interpreter (arguments ++ path :: words.drop 1)
        | _ =>
          Run.complain (name ++ ": not found")
          throw (.exit 127)

def variableRows : Nat := 39

/-- The variables that a shell hands on to a program, in the order of its rows. -/
def handedOn (bindings : List (String × Variable)) : List (String × Variable) :=
  (bindings.reverse.filter fun entry => entry.2.exported && entry.2.value.isSome).mergeSort fun a b =>
    decide (rowOfName variableRows a.1 ≤ rowOfName variableRows b.1)

/-- Run what is to be run, to its end, in the process that runs. -/
def runProgram (m : Machine) (runnable : Runnable) (path : String) (words : List String) : Run Unit := do
  Run.modifyShell fun s => { s with bindings := handedOn s.bindings }
  runFound m (words.length + 1) runnable path words

def startMessage (e : FileError) : String :=
  match e with
  | .missing | .notDirectory => "not found"
  | e => e.message

def startStatus (e : FileError) : Nat :=
  match e with
  | .missing | .notDirectory | .nameTooLong => 127
  | _ => 126

/-- Run a program to its end, in the process that runs, or complain that it cannot be run. -/
def runNamed (m : Machine) (words : List String) : Run Unit := do
  let name := words.headD ""
  match ← lookUp name with
  | .ok runnable => runProgram m runnable ((← pathOf? name).getD name) words
  | .error e =>
    Run.complain (name ++ ": " ++ startMessage e)
    throw (.exit (startStatus e))

end PassTuner.Toolbox.Shell

import PassTuner.Toolbox.Shell.Builtin.Basic

/-! Commands of the shell's own that lead the run elsewhere. -/
namespace PassTuner.Toolbox.Shell

open Text (Stream)

/-- End with the status given, or the last one; within the command of a trap, the one before it. -/
def exitWith : Builtin := fun _ words => do
  match words with
  | word :: _ => throw (.exit (← naturalOf word))
  | [] =>
    let s ← Run.shell
    throw (.exit (s.trapped.getD s.status))

def returnWith : Builtin := fun _ words => do
  match words with
  | word :: _ => Run.setStatus (← naturalOf word)
  | [] => pure ()
  throw (.return !words.isEmpty)

/-- Leave loops, or begin their next rounds. -/
def loopWith (stop : Nat → Stop) : Builtin := fun _ words => do
  let count ← match words with
    | word :: _ => do
      let n ← naturalOf word
      if n = 0 then Run.fail ("Illegal number: " ++ word)
      pure n
    | [] => pure 1
  let loops := (← Run.shell).loops
  if loops = 0 then return 0
  Run.setStatus 0
  throw (stop (min count loops))

def evalWith (tested : Bool) : Builtin := fun m words => do
  if words.isEmpty then return 0
  m.runText tested .text (" ".intercalate words)
  return (← Run.shell).status

def sourceWith : Builtin := fun m words => do
  let letters ← takeLetters [] [] words
  match letters.operands with
  | [] => return 0
  | name :: _ =>
    let s ← get
    let path? ← if name.toList.contains '/' then pure (some name)
      else do
        let path ← searchPath
        pure (path.findSome? fun start =>
          let whole := if start.isEmpty then name else start ++ "/" ++ name
          match s.world.files.find s.shell.directory whole with
          | .ok (.file _ _) => some whole
          | _ => none)
    match path? with
    | none => Run.fail (name ++ ": not found")
    | some path =>
      let text ← scriptOf path
      try
        Run.restoring (fun before s => { s with commandName := before.commandName }) do
          Run.modifyShell fun s => { s with commandName := some path, status := 0 }
          m.runText false .lines text
      catch stop => if !stop.isReturn then throw stop
      return (← Run.shell).status

def execWith : Builtin := fun m words => do
  match words with
  | [] => return 0
  | words =>
    match ← lookUp (words.headD "") with
    | .ok _ =>
      Run.modifyShell fun s => { s with traps := s.traps.filter fun trap => trap.2.isEmpty }
      runNamed m words
    | .error _ => runNamed m words
    return 0

end PassTuner.Toolbox.Shell

import PassTuner.Toolbox.Shell.Execution
import PassTuner.Toolbox.Tools.Calculating
import PassTuner.Toolbox.Tools.Counting
import PassTuner.Toolbox.Tools.Filing
import PassTuner.Toolbox.Tools.Searching
import PassTuner.Toolbox.Tools.Sorting
import PassTuner.Toolbox.Tools.Testing
import PassTuner.Toolbox.Tools.Translating
import PassTuner.Toolbox.Tools.Waiting

/-! The programs that measuring commands may start: the tools and the shell. -/
namespace PassTuner.Toolbox

open Shell

def tools : List (String × Tool) :=
  [("true", constant "true" 0), ("false", constant "false" 1), ("echo", echo), ("printf", printf),
   ("yes", yes), ("seq", seq), ("cat", cat), ("head", head), ("tail", tail), ("tee", tee), ("wc", wc),
   ("grep", grep), ("sleep", sleep), ("tr", tr), ("cut", cut), ("sort", sort), ("uniq", uniq), ("tac", tac),
   ("expr", expr), ("basename", basename), ("dirname", dirname), ("pwd", pwd),
   ("test", testing false), ("[", testing true), ("mkdir", mkdir), ("rmdir", rmdir),
   ("touch", touch), ("rm", rm), ("mv", mv), ("cp", cp)]

/-- How many levels commands can have within each other, and how many steps a run can take. -/
def levels : Nat := 45500

def steps : Nat := 1000000

def environment : List (String × String) := [("HOME", "/root"), ("PATH", ":".intercalate standardPath)]

def session (name : String) (input : String) (files : Files) : Session where
  world :=
    { files, steps
      channels := [(0, .source (.ofText (Text.bytes input))), (1, .sink []), (2, .sink [])]
      endings := []
      sent := []
      nextChannel := 3
      nextProcess := 1001 }
  shell := { Interpreter.begin name 1000 [] 0 [] [(0, 0), (1, 1), (2, 2)] Files.workingPlace
      (pathOfPlace Files.workingPlace) with
    bindings := environment.map fun (name, value) => (name, ⟨some value, true, false⟩) }

def programs : Programs := fun name arguments input files =>
  let words := (name :: arguments).map Files.pathBytes
  if words.any fun word => word.toList.contains (Char.ofNat 0) then (.refused .zeroByte, files)
  else
    let program := words.headD ""
    match findProgram files Files.workingPlace standardPath program with
    | .error e => (.refused (.file e), files)
    | .ok runnable =>
      let m := machine (fun name => tools.lookup name) levels
      let run : Run (Option Ending × Text.Stream × Text.Stream × Nat) := do
        let result ← (concludeWith m (runFound m (words.length + 1) runnable program words) : Run (Option Ending))
        return (result, ← collect 1, ← collect 2, (← Run.shell).now)
      match (run.run).run (session program input files) with
      | (.ok (some ending, output, errors, ms), s) =>
        (if output.isEndless || errors.isEndless then .endless else .ended ending output.text errors.text ms,
          s.world.files)
      | (_, s) => (.endless, s.world.files)

end PassTuner.Toolbox

import PassTuner.CommandLine.Run
import PassTuner.Toolbox.Programs

/-! The program: real files and streams around the pure commands. -/
namespace PassTuner.Main

open CommandLine

def inputPaths : Command → List String
  | .search o => o.features :: ([o.catalog, o.config, o.knowledgeBase].filterMap id)
  | .inspect path _ => [path]
  | .catalog path _ => path.toList

def readFiles (paths : List String) : IO (List (String × String)) :=
  paths.filterMapM fun (path : String) => do
    try return some (path, ← IO.FS.readFile path)
    catch _ => return none

/-- The files that a command may write, given those it has read. -/
def outputPaths (command : Command) (files : Files) : List String :=
  match command with
  | .search o =>
    let config := (loadConfig files o.config).toOption.map o.override
    o.report.toList ++ (config.bind SearchConfig.knowledgeBase).toList
  | .inspect _ _ | .catalog _ _ => []

def writeChanged (before after : Files) (path : String) : IO Unit := do
  match after.read? path with
  | some text => if before.read? path ≠ some text then IO.FS.writeFile path text
  | none => pure ()

def runOnFiles (command : Command) : IO UInt32 := do
  let first := Files.ofList (← readFiles (inputPaths command))
  let paths := inputPaths command ++ outputPaths command first
  let files := Files.ofList (← readFiles paths)
  let seed ← IO.rand 0 (0xffffffffffffffff)
  let ran := run command Toolbox.programs seed files
  IO.print ran.output
  for path in outputPaths command files do
    writeChanged files ran.files path
  match ran.failure with
  | some failure =>
    IO.eprintln ("Error: " ++ failure.message)
    return 1
  | none => return 0

def usage : String :=
  "usage: passtuner search --features FILE [options] -- COMMAND...\n" ++
  "       passtuner inspect --knowledge-base FILE [--top N]\n" ++
  "       passtuner catalog [--catalog FILE] [--parameterized]"

end PassTuner.Main

def main (words : List String) : IO UInt32 := do
  match PassTuner.CommandLine.read words with
  | .ok command => PassTuner.Main.runOnFiles command
  | .error .help =>
    IO.println PassTuner.Main.usage
    return 0
  | .error .wrong =>
    IO.eprintln PassTuner.Main.usage
    return 2

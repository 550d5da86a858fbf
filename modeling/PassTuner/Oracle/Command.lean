import PassTuner.Decision.Stored
import PassTuner.Double.Reader
import PassTuner.Files
import PassTuner.Json.Printer
import PassTuner.Oracle.Barrier
import PassTuner.Text.Quoted

/-! Measuring with a command: a program is handed the decisions and prints the cost.

The cost is the last line printed that is not blank. A program that fails is a failed
compilation, and one that takes too long is stopped. -/
namespace PassTuner

/-- How a program ended. -/
inductive Ending where
  | exited (status : Nat)
  | killed (signal : Nat)
  deriving DecidableEq, Repr, Inhabited

/-- Why a program cannot be started. -/
inductive StartError where
  /-- a word that it is started with holds a zero byte -/
  | zeroByte
  /-- the path of the program leads to nothing that can be run -/
  | file (cause : FileError)
  deriving DecidableEq, Repr

def StartError.message : StartError → String
  | .zeroByte => "nul byte found in provided data"
  | .file cause => cause.message ++ " (os error " ++ toString cause.description.1 ++ ")"

/-- What came of starting a program: what it printed is bytes. -/
inductive Execution where
  | refused (cause : StartError)
  /-- it is still running after any time -/
  | endless
  | ended (ending : Ending) (output errors : List Char) (milliseconds : Nat)
  deriving Repr

/-- The programs there are: what starting one with its arguments and an input comes to, and what it
does to the files. -/
abbrev Programs := String → List String → String → StateM Files Execution

def signalNames : List (Nat × String) :=
  [(1, "SIGHUP"), (2, "SIGINT"), (3, "SIGQUIT"), (4, "SIGILL"), (5, "SIGTRAP"), (6, "SIGABRT"),
   (7, "SIGBUS"), (8, "SIGFPE"), (9, "SIGKILL"), (10, "SIGUSR1"), (11, "SIGSEGV"),
   (12, "SIGUSR2"), (13, "SIGPIPE"), (14, "SIGALRM"), (15, "SIGTERM"), (16, "SIGSTKFLT"),
   (17, "SIGCHLD"), (18, "SIGCONT"), (19, "SIGSTOP"), (20, "SIGTSTP"), (21, "SIGTTIN"),
   (22, "SIGTTOU"), (23, "SIGURG"), (24, "SIGXCPU"), (25, "SIGXFSZ"), (26, "SIGVTALRM"),
   (27, "SIGPROF"), (28, "SIGWINCH"), (29, "SIGIO"), (30, "SIGPWR"), (31, "SIGSYS")]

def Ending.text : Ending → String
  | .exited status => "exit status: " ++ toString status
  | .killed signal =>
    "signal: " ++ toString signal ++ match signalNames.lookup signal with
      | some name => " (" ++ name ++ ")"
      | none => ""

def costOfOutput (output : String) : Cost :=
  match ((Text.lines output.toList).map Text.trim).filter (fun line => !line.isEmpty) |>.getLast? with
  | none => .error (.measure "no cost printed on stdout")
  | some line =>
    match Double.read? line with
    | some cost => .ok cost
    | none => .error (.measure ("cannot parse cost from " ++ String.ofList (Text.quote line)))

/-- What was printed, as text; nothing of it is, unless all of it is. -/
def printedText (printed : List Char) : String := (Text.ofBytes? printed).getD ""

def lastComplaint (errors : String) : String :=
  String.ofList (Text.trim ((Text.lines errors.toList).getLast?.getD []))

def Decisions.payload (d : Decisions) : String :=
  String.ofList (Json.object [("decisions", d.toJson)]).compact

/-- A program to measure with, and how long it may take. -/
structure MeasuringCommand where
  program : String
  arguments : List String
  timeout : Nat
  deriving DecidableEq, Repr

namespace MeasuringCommand

/-- The command of a line of words, the program first. -/
def ofWords? (words : List String) (timeout : Nat) : Option MeasuringCommand :=
  match words with
  | [] => none
  | program :: arguments => some ⟨program, arguments, timeout⟩

/-- The cost of an execution. One that takes all the time there is, is stopped. -/
def cost (c : MeasuringCommand) : Execution → Cost
  | .refused cause => .error (.io ("spawning " ++ c.program ++ ": " ++ cause.message))
  | .endless => .error (.timeout c.timeout)
  | .ended ending output errors milliseconds =>
    if c.timeout ≤ milliseconds then .error (.timeout c.timeout)
    else if ending = .exited 0 then costOfOutput (printedText output)
    else .error (.compile (ending.text ++ " (" ++ lastComplaint (printedText errors) ++ ")"))

def run (c : MeasuringCommand) (programs : Programs) (d : Decisions) : StateM Files Cost := do
  return c.cost (← programs c.program c.arguments d.payload)

/-- The baseline is the cost without decisions. -/
def measurement (c : MeasuringCommand) (programs : Programs) : Measurement Files :=
  ⟨.returned <$> c.run programs .empty, fun d => .returned <$> c.run programs d⟩

end MeasuringCommand

end PassTuner

import PassTuner.Files

/-! Finding programs: what the path of a program leads to. -/
namespace PassTuner.Toolbox

/-- What can be run. -/
inductive Runnable where
  /-- a program that is installed under a name -/
  | installed (name : String)
  | script (text : List Char)
  deriving DecidableEq, Repr

/-- Where programs are looked for that are given without a directory. -/
def standardPath : List String :=
  ["/usr/local/sbin", "/usr/local/bin", "/usr/sbin", "/usr/bin", "/sbin", "/bin"]

def runnableAt (files : Files) (directory : Place) (path : String) : Except FileError Runnable := do
  let place ← files.locate directory path
  match files.node? place with
  | some .program => .ok (.installed (place.getLast?.getD ""))
  | some (.file text true) => .ok (.script text)
  | some _ => .error .denied
  | none => .error .missing

/-- What a name leads to that is looked for in directories. What cannot be run is passed over, and
remembered in case nothing can. -/
def searchFor (files : Files) (directory : Place) (name : String) :
    List String → FileError → Except FileError Runnable
  | [], e => .error e
  | start :: rest, e =>
    match runnableAt files directory (if start.isEmpty then name else start ++ "/" ++ name) with
    | .ok runnable => .ok runnable
    | .error .denied => searchFor files directory name rest .denied
    | .error .missing | .error .notDirectory => searchFor files directory name rest e
    | .error other => .error other

/-- What the name of a program leads to, if it is no path. -/
def findProgram (files : Files) (directory : Place) (path : List String) (name : String) : Except FileError Runnable :=
  if name.toList.contains '/' then runnableAt files directory name
  else if name.isEmpty then .error .missing
  else if Files.longestName < name.length then .error .nameTooLong
  else searchFor files directory name path .missing

/-- The program that a script names in its first line, and the argument behind it. -/
def interpreter? (text : List Char) : Option (String × List String) :=
  match text with
  | '#' :: '!' :: rest =>
    let isBlank (c : Char) : Bool := c == ' ' || c == '\t'
    let line := (rest.takeWhile (· != '\n')).dropWhile isBlank
    let (path, rest) := line.span fun c => !isBlank c
    let argument := ((rest.dropWhile isBlank).reverse.dropWhile isBlank).reverse
    some (String.ofList path, if argument.isEmpty then [] else [String.ofList argument])
  | _ => none

end PassTuner.Toolbox

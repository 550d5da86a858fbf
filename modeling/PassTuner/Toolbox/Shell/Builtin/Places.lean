import PassTuner.Toolbox.Shell.Builtin.Basic
import PassTuner.Toolbox.Shell.Reader

/-! Commands of the shell's own that are about directories and about commands. -/
namespace PassTuner.Toolbox.Shell

/-- Whether paths are taken as places, and not by the names that led there: letters that say so alternate. -/
def isPhysical (letters : Letters) : Bool :=
  (letters.found.getLast?.map Prod.fst) == some 'P'

/-- The path that a path leads to from another, name by name: nothing stands behind a name that leads
back. Two slashes at the start mean a root of its own. -/
def pathFrom (current path : String) : String :=
  let isRooted := path.startsWith "/"
  let isDouble := if isRooted then path.startsWith "//" && !path.startsWith "///" else current.startsWith "//"
  let start := if isRooted then [] else (String.ofList (current.toList.drop (if isDouble then 2 else 1))).splitOn "/"
  let start := if start.getLast? = some "" then start.dropLast else start
  let names := (path.splitOn "/").foldl (fun names name =>
    if name = "" ∨ name = "." then names
    else if name = ".." then names.dropLast
    else names ++ [name]) start
  (if isDouble then "//" else "/") ++ "/".intercalate names

/-- Whether a path is not looked for in other directories: it starts at the root, or with a name that
leads to a directory itself or back. -/
def isAnchored (path : String) : Bool :=
  path.startsWith "/" || [".", ".."].contains ((path.splitOn "/").headD "")

/-- The path by which a directory is entered that is looked for, and whether it was found somewhere else. -/
def findDirectory (wanted : String) : Run (String × Bool) := do
  let s ← get
  let starts := match ← Run.valueOf? "CDPATH" with
    | some starts => starts.splitOn ":"
    | none => []
  let found := starts.findSome? fun start =>
    let whole := if start.isEmpty then wanted else start ++ "/" ++ wanted
    match s.world.files.find s.shell.directory whole with
    | .ok .directory => some (whole, !start.isEmpty)
    | _ => none
  return found.getD (wanted, false)

def cdWith : Builtin := fun _ words => do
  let letters ← takeLetters ['L', 'P'] [] words
  let isBack := letters.operands.head? == some "-"
  let asked ← match letters.operands with
    | [] => do pure ((← Run.valueOf? "HOME").getD "")
    | word :: _ => do
      if isBack then pure ((← Run.valueOf? "OLDPWD").getD "") else pure word
  let wanted := if asked.isEmpty then "." else asked
  let (found, isTold) ← if isAnchored asked then pure (asked, false) else findDirectory wanted
  let s ← get
  let path := if isPhysical letters then found else pathFrom s.shell.path found
  match s.world.files.locate s.shell.directory path with
  | .ok place =>
    if !s.world.files.isDirectory place then Run.fail ("can't cd to " ++ wanted)
    let path := if isPhysical letters then pathOfPlace place else path
    Run.modifyShell fun s => { s with directory := place }
    Run.assignExported "OLDPWD" s.shell.path
    Run.modifyShell fun s => { s with path }
    Run.assignExported "PWD" path
    if isBack || isTold then emitLine path
    return 0
  | .error _ => Run.fail ("can't cd to " ++ wanted)

def pwdWith : Builtin := fun _ words => do
  let letters ← takeLetters ['L', 'P'] [] words
  let s ← Run.shell
  emitLine (if isPhysical letters then pathOfPlace s.directory else s.path)
  return 0

/-- All permissions: those of the owner, of the group and of the others. -/
def allPermissions : Nat := 511

/-- Whose permissions a letter means, one bit for each. -/
def permissionHolder (letter : Char) : Nat :=
  match letter with
  | 'a' => 73
  | 'u' => 64
  | 'g' => 8
  | _ => 1

/-- The permissions that a letter means, given those there are. -/
def permissionOf (old : Nat) (letter : Char) : Nat :=
  match letter with
  | 'r' => 4
  | 'w' => 2
  | 'x' => 1
  | 'u' => old >>> 6 &&& 7
  | 'g' => old >>> 3 &&& 7
  | 'o' => old &&& 7
  | 'X' => if old &&& 73 = 0 then 0 else 1
  | _ => 0

/-- What a mode makes of permissions: clauses tell whose are taken, added or set. What was made so far is
`new`. The characters are counted down by `fuel`. -/
def changePermissions? (old : Nat) : Nat → (isFirst : Bool) → (holders new : Nat) → List Char → Option Nat
  | 0, _, _, _, _ => none
  | _ + 1, _, _, new, [] => some new
  | fuel + 1, isFirst, holders, new, text =>
    let (letters, rest) := text.span ['a', 'u', 'g', 'o'].contains
    let named := letters.foldl (fun all letter => all ||| permissionHolder letter) holders
    let holders := if named = 0 then permissionHolder 'a' else named
    match rest with
    | [] => if isFirst then none else some new
    | sign :: rest =>
      let (letters, rest) := rest.span ['r', 'w', 'x', 'u', 'g', 'o', 'X', 's'].contains
      let change := letters.foldl (fun all letter => all ||| permissionOf old letter) 0 * holders
      let changed : Option Nat := match sign with
        | '+' => some (new ||| change)
        | '-' => some (new &&& (allPermissions ^^^ change))
        | '=' => some (change ||| (new &&& (allPermissions ^^^ (holders * 7))))
        | _ => none
      match changed, rest with
      | none, _ => none
      | some new, ',' :: rest => changePermissions? old fuel false 0 new rest
      | some new, [] => some new
      | some new, c :: _ => if ['+', '-', '='].contains c then changePermissions? old fuel false holders new rest else none

/-- The permissions that new files are not given. -/
def umaskWith : Builtin := fun _ words => do
  let letters ← takeLetters ['S'] [] words
  let mask := (← Run.shell).mask
  match letters.operands with
  | [] =>
    if letters.has 'S' then
      let part (shift : Nat) : String :=
        let bits := 7 - (mask >>> shift) % 8
        (if 4 ≤ bits then "r" else "") ++ (if 2 ≤ bits % 4 then "w" else "") ++ (if bits % 2 = 1 then "x" else "")
      emitLine ("u=" ++ part 6 ++ ",g=" ++ part 3 ++ ",o=" ++ part 0)
    else
      let digits := Nat.toDigits 8 mask
      emitLine (String.ofList (List.replicate (4 - digits.length) '0' ++ digits))
  | word :: _ =>
    let text := word.toList
    if text.head?.any Char.isDigit then
      if text.all fun c => '0' ≤ c && c ≤ '7' then
        Run.modifyShell fun s => { s with mask := digitsIn 8 text % (allPermissions + 1) }
      else Run.fail ("Illegal number: " ++ word)
    else
      let old := allPermissions ^^^ mask
      match changePermissions? old (text.length + 1) true 0 old text with
      | some new => Run.modifyShell fun s => { s with mask := allPermissions ^^^ new }
      | none => Run.fail ("Illegal mode: " ++ word)
  return 0

/-- What a name means as a command. -/
inductive Meaning where
  | keyword
  | alias (text : String)
  | function
  | builtin (special : Bool)
  | program (path : String) (isRemembered : Bool)
  | nothing

def ownNames : List String :=
  [".", ":", "[", "alias", "bg", "break", "cd", "chdir", "command", "continue", "echo", "eval", "exec",
   "exit", "export", "false", "fg", "getopts", "hash", "jobs", "kill", "local", "printf", "pwd", "read",
   "readonly", "return", "set", "shift", "test", "times", "trap", "true", "type", "ulimit", "umask",
   "unalias", "unset", "wait"]

def meaningOf (name : String) : Run Meaning := do
  let s ← Run.shell
  if (Keyword.all.lookup name).isSome then return .keyword
  match s.aliases.lookup name with
  | some text => return .alias text
  | none =>
    if s.functions.any fun entry => entry.1 == name then return .function
    else if ownNames.contains name then return .builtin (specialNames.contains name)
    else match ← lookUpToRemember name with
      | .ok _ => return .program ((← pathOf? name).getD name) (s.remembered.contains name)
      | .error _ => return .nothing

/-- Tell what names mean; in full, or only what is run. -/
def describe (full : Bool) (name : String) : Run Nat := do
  match ← meaningOf name with
  | .keyword => emitLine (if full then name ++ " is a shell keyword" else name)
  | .alias text =>
    emitLine (if full then name ++ " is an alias for " ++ text else "alias " ++ name ++ "=" ++ quoted text)
  | .function => emitLine (if full then name ++ " is a shell function" else name)
  | .builtin special =>
    emitLine (if full then name ++ (if special then " is a special shell builtin" else " is a shell builtin")
      else name)
  | .program path isRemembered =>
    emitLine (if full then name ++ (if isRemembered then " is a tracked alias for " else " is ") ++ path else path)
  | .nothing =>
    if full then emitLine (name ++ ": not found")
    return 127
  return 0

def typeWith : Builtin := fun _ words => do
  let statuses ← words.mapM (describe true)
  return statuses.foldl max 0

def programRows : Nat := 31

/-- Look programs up in advance, or list those that are remembered. -/
def hashWith : Builtin := fun _ words => do
  let letters ← takeLetters ['r'] [] words
  if letters.has 'r' then
    Run.modifyShell fun s => { s with remembered := [] }
    return 0
  if letters.operands.isEmpty then
    ((← Run.shell).remembered.mergeSort fun a b =>
      decide (rowOfName programRows a ≤ rowOfName programRows b)).forM fun name => do
        emitLine ((← pathOf? name).getD name)
  letters.operands.foldlM (fun status name => do
    if (← Run.shell).functions.any (fun entry => entry.1 == name) || ownNames.contains name then return status
    match ← lookUpToRemember name with
    | .ok _ => return status
    | .error _ =>
      Run.complain (name ++ ": not found")
      return 1) 0

def commandWith : Builtin := fun _ words => do
  let letters ← takeLetters ['p', 'v', 'V'] [] words
  match letters.operands with
  | [] => return 0
  | name :: _ => describe (letters.has 'V') name

end PassTuner.Toolbox.Shell

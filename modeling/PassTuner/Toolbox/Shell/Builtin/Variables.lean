import PassTuner.Toolbox.Shell.Builtin.Basic

/-! Commands of the shell's own that are about variables, arguments and options. -/
namespace PassTuner.Toolbox.Shell

open Text (Stream)

/-- A word that may assign: the name, and the value if there is one. -/
def splitAssignment (word : String) : String × Option String :=
  match word.toList.span (· != '=') with
  | (name, []) => (String.ofList name, none)
  | (name, _ :: value) => (String.ofList name, some (String.ofList value))

def sortedVariables : Run (List (String × Variable)) := do
  return (← Run.shell).bindings.mergeSort fun a b => decide (a.1 ≤ b.1)

/-- Mark variables, and give them values if words do; or list those that are marked. -/
def markWith (name : String) (mark : Variable → Variable) (isMarked : Variable → Bool) : Builtin := fun _ words => do
  let letters ← takeLetters ['p'] [] words
  if letters.has 'p' || letters.operands.isEmpty then
    (← sortedVariables).forM fun (target, v) =>
      if isMarked v then
        emitLine (name ++ " " ++ target ++ match v.value with
          | some value => "=" ++ quoted value
          | none => "")
      else pure ()
  else
    letters.operands.forM fun word => do
      let (target, value) := splitAssignment word
      if !isName target.toList then Run.fail (target ++ ": bad variable name")
      match value with
      | some value => Run.assign target (some value)
      | none => pure ()
      let v := (← Run.named? target).getD ⟨none, false, false⟩
      Run.putVariable target (mark v)
  return 0

def exportWith : Builtin := markWith "export" (fun v => { v with exported := true }) Variable.exported

def readonlyWith : Builtin := markWith "readonly" (fun v => { v with readonly := true }) Variable.readonly

def localWith : Builtin := fun _ words => do
  if (← Run.shell).calls = 0 then Run.fail "not in a function"
  words.forM fun word => do
    let (target, value) := splitAssignment word
    match isName target.toList, value with
    | true, value =>
      Run.saveLocal target
      match value with
      | some value => Run.assign target (some value)
      | none => return
    | false, some _ => Run.modifyLocals fun frame => { frame with wrong := frame.wrong <|> some target }
    | false, none =>
      if target ≠ "-" then Run.fail (target ++ ": bad variable name")
      let options := (← Run.shell).options
      Run.modifyLocals fun frame => { frame with options := frame.options <|> some options }
  return 0

def unsetWith : Builtin := fun _ words => do
  let letters ← takeLetters ['v', 'f'] [] words
  let functions := (letters.found.getLast?.map Prod.fst) == some 'f'
  letters.operands.forM fun name => do
    if functions then
      Run.modifyShell fun s => { s with functions := s.functions.filter fun entry => entry.1 != name }
    else
      if !isName name.toList then Run.fail (name ++ ": bad variable name")
      Run.assign name none
  return 0

/-- Set options and arguments, or list variables. -/
def setWith : Builtin := fun _ words => do
  if words.isEmpty then
    (← sortedVariables).forM fun (name, v) =>
      match v.value with
      | some value => emitLine (name ++ "=" ++ quoted value)
      | none => return
  else
    let asked ← takeOptions false words.length words ⟨false, false, []⟩
    if asked.ended || !asked.operands.isEmpty then
      Run.modifyShell fun s => { s with arguments := asked.operands, optionIndex := 1, optionOffset := none }
  return 0

def shiftWith : Builtin := fun _ words => do
  let count ← match words with
    | word :: _ => naturalOf word
    | [] => pure 1
  let arguments := (← Run.shell).arguments
  if arguments.length < count then Run.fail "can't shift that many"
  Run.modifyShell fun s => { s with arguments := arguments.drop count, optionIndex := 1, optionOffset := none }
  return 0

/-! ### Reading a line -/

/-- The characters of a line that is read, with whether they can separate fields; what follows the
line; and whether its end was reached. A backslash takes the meaning from what follows it. -/
def readLineFrom (raw : Bool) : List Char → List (Char × Bool) × List Char × Bool
  | [] => ([], [], false)
  | '\n' :: rest => ([], rest, true)
  | '\\' :: c :: rest =>
    if raw then
      let (line, left, ended) := readLineFrom raw (c :: rest)
      (('\\', true) :: line, left, ended)
    else
      let (line, left, ended) := readLineFrom raw rest
      (if c = '\n' then line else (c, false) :: line, left, ended)
  | '\\' :: [] => (if raw then [('\\', true)] else [], [], false)
  | c :: rest =>
    let (line, left, ended) := readLineFrom raw rest
    (if c.toNat = 0 then line else (c, true) :: line, left, ended)

/-- How far a line is split into so many fields. The last takes all that is left, without the
separators at its end; `cut` is its length without them. -/
structure LineSplitting where
  left : Nat
  fields : List (List Char)
  current : List Char
  cut : Option Nat
  afterBlank : Bool
  skips : Bool

namespace LineSplitting

def take (separators : List Char) (s : LineSplitting) (item : Char × Bool) : LineSplitting :=
  let (c, splits) := item
  let isSeparator := splits && separators.contains c
  let isBlank := isSeparator && (c == ' ' || c == '\t' || c == '\n')
  let keep : LineSplitting := { s with current := c :: s.current }
  if !splits then { keep with skips := false, afterBlank := false }
  else if s.left = 0 then
    if isBlank then { keep with cut := s.cut <|> some s.current.length }
    else { keep with
      cut := if isSeparator && s.afterBlank then s.cut else none
      afterBlank := false }
  else if s.skips && isBlank then s
  else if s.skips && isSeparator && s.afterBlank then { s with afterBlank := false }
  else if isSeparator then
    if isBlank && s.current.isEmpty then { s with skips := false, afterBlank := false }
    else if s.left = 1 then { keep with left := 0, cut := some s.current.length, afterBlank := isBlank, skips := false }
    else { s with
      left := s.left - 1
      fields := s.current.reverse :: s.fields
      current := []
      afterBlank := isBlank
      skips := true }
  else { keep with skips := false, afterBlank := false }

end LineSplitting

/-- A line in so many fields at most. -/
def splitLine (separators : List Char) (count : Nat) (line : List (Char × Bool)) : List String :=
  let s := line.foldl (LineSplitting.take separators) ⟨count, [], [], none, false, false⟩
  let last := match s.cut with
    | some n => s.current.reverse.take n
    | none => s.current.reverse
  ((if last.isEmpty then s.fields else last :: s.fields).reverse).map String.ofList

def readWith : Builtin := fun _ words => do
  let letters ← takeLetters ['r'] ['p'] words
  if letters.operands.isEmpty then Run.fail "arg count"
  let (text, failed) ← match ← Run.readAll 0 with
    | .ok (stream, _) => pure (stream.unrolled 1, false)
    | .error _ => pure ([], true)
  let (line, rest, ended) := readLineFrom (letters.has 'r') text
  if !failed then
    match ← Run.readAll 0 with
    | .ok (stream, _) => Run.leaveRest 0 ⟨rest, stream.again⟩
    | .error _ => return 1
  let fields := splitLine (← separators) letters.operands.length line
  letters.operands.zipIdx.forM fun (name, i) => Run.assignNamed name (some (fields[i]?.getD ""))
  return if ended then 0 else 1

/-! ### Options of scripts -/

/-- Whether a letter is among the options that are known, and whether it takes a value. -/
def knownOption? (known : List Char) (c : Char) : Option Bool :=
  match known with
  | [] => none
  | d :: rest =>
    if c = d ∧ d ≠ ':' then some (rest.head? == some ':')
    else knownOption? rest c

def getoptsWith : Builtin := fun _ words => do
  match words with
  | known :: name :: own =>
    let s ← Run.shell
    let arguments := if own.isEmpty then s.arguments else own
    let silent := known.toList.head? == some ':'
    let finish (c : Char) (index : Nat) (offset : Option Nat) (status : Nat) : Run Nat := do
      Run.assign "OPTIND" (some (toString index))
      Run.assignNamed name (some (String.singleton c))
      Run.modifyShell fun s => { s with optionIndex := index, optionOffset := offset }
      return status
    let current := match s.optionOffset with
      | some offset => if 1 < s.optionIndex then ((arguments[s.optionIndex - 2]?).getD "").toList.drop offset else []
      | none => []
    let index := s.optionIndex
    let opened : Option (List Char × Nat × Nat) :=
      if !current.isEmpty then some (current, index, s.optionOffset.getD 0)
      else match arguments[index - 1]? with
        | none => none
        | some word =>
          match word.toList with
          | '-' :: c :: rest => some (c :: rest, index + 1, 1)
          | _ => none
    match opened with
    | none => finish '?' index none 1
    | some (['-'], index, 1) => finish '?' index none 1
    | some ([], index, _) => finish '?' index none 1
    | some (c :: rest, index, offset) =>
      let after := if rest.isEmpty then none else some (offset + 1)
      match knownOption? (if silent then known.toList.drop 1 else known.toList) c with
      | none =>
        if silent then Run.assign "OPTARG" (some (String.singleton c))
        else
          Run.tell ("Illegal option -" ++ String.singleton c ++ "\n")
          Run.assign "OPTARG" none
        finish '?' index after 0
      | some false =>
        Run.assign "OPTARG" (some "")
        finish c index after 0
      | some true =>
        match rest, arguments[index - 1]? with
        | [], none =>
          if silent then
            Run.assign "OPTARG" (some (String.singleton c))
            finish ':' index none 0
          else
            Run.tell ("No arg for -" ++ String.singleton c ++ " option\n")
            Run.assign "OPTARG" none
            finish '?' index none 0
        | [], some value =>
          Run.assign "OPTARG" (some value)
          finish c (index + 1) none 0
        | rest, _ =>
          Run.assign "OPTARG" (some (String.ofList rest))
          finish c index none 0
  | _ => Run.fail "Usage: getopts optstring var [arg...]"

/-! ### Aliases -/

def aliasWith : Builtin := fun _ words => do
  let s ← Run.shell
  let line (entry : String × String) : Run Unit := emitLine (entry.1 ++ "=" ++ quoted entry.2)
  if words.isEmpty then
    (s.aliases.mergeSort fun a b => decide (a.1 ≤ b.1)).forM line
    return 0
  else
    let statuses ← words.mapM fun word => do
      let (rest, value) := splitAssignment (String.ofList (word.toList.drop 1))
      match String.ofList (word.toList.take 1) ++ rest, value with
      | name, some value =>
        Run.modifyShell fun s => { s with
          aliases := (name, value) :: s.aliases.filter fun entry => entry.1 != name }
        return 0
      | name, none =>
        match (← Run.shell).aliases.lookup name with
        | some value =>
          line (name, value)
          return 0
        | none =>
          Run.tell ("alias: " ++ name ++ " not found\n")
          return 1
    return statuses.foldl max 0

def unaliasWith : Builtin := fun _ words => do
  let letters ← takeLetters ['a'] [] words
  if letters.has 'a' then
    Run.modifyShell fun s => { s with aliases := [] }
    return 0
  else
    let statuses ← letters.operands.mapM fun name => do
      let known := (← Run.shell).aliases.any fun entry => entry.1 == name
      if !known then Run.tell ("unalias: " ++ name ++ " not found\n")
      Run.modifyShell fun s => { s with aliases := s.aliases.filter fun entry => entry.1 != name }
      return if known then 0 else 1
    return statuses.foldl max 0

end PassTuner.Toolbox.Shell

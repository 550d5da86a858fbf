import PassTuner.Toolbox.Shell.Builtin.Basic

/-! The command of the shell that is about limits. A limit is given and told in a unit of its own, and
kept as a number of 64 bits; the greatest of these means that there is none. -/
namespace PassTuner.Toolbox.Shell

/-- How a limit is listed: its letter, its title, and its unit. -/
structure LimitTitle where
  letter : Char
  title : String
  unit : Nat
  deriving DecidableEq, Repr

def limitTitles : List LimitTitle :=
  [⟨'t', "time(seconds)", 1⟩, ⟨'f', "file(blocks)", 512⟩, ⟨'d', "data(kbytes)", 1024⟩,
   ⟨'s', "stack(kbytes)", 1024⟩, ⟨'c', "coredump(blocks)", 512⟩, ⟨'m', "memory(kbytes)", 1024⟩,
   ⟨'l', "locked memory(kbytes)", 1024⟩, ⟨'p', "process", 1⟩, ⟨'n', "nofiles", 1⟩,
   ⟨'v', "vmemory(kbytes)", 1024⟩, ⟨'w', "locks", 1⟩, ⟨'r', "rtprio", 1⟩]

/-- A limit in its unit, as a number with a sign. -/
def limitText (unit value : Nat) : String :=
  if value = unlimited then "unlimited"
  else
    let n := value / unit
    if n < 0x8000000000000000 then toString n else toString ((n : Int) - 0x10000000000000000)

def limitOf (unit : Nat) (word : String) : Run Nat := do
  if word = "unlimited" then return unlimited
  if !word.toList.all Char.isDigit then Run.fail "bad number"
  return digitsIn 10 word.toList * unit % (unlimited + 1)

/-- What limits are asked for: those that hold, those up to which they may be raised, or both. -/
structure LimitKind where
  soft : Bool
  hard : Bool
  deriving DecidableEq, Repr

/-- A limit with a new value. What holds is never above what it may be raised to, and that is never raised. -/
def Limit.set (kind : LimitKind) (value : Nat) (limit : Limit) : Except String Limit :=
  let changed : Limit :=
    { limit with
      soft := if kind.soft then value else limit.soft
      hard := if kind.hard then value else limit.hard }
  if changed.hard < changed.soft then .error "Invalid argument"
  else if limit.hard < changed.hard then .error "Operation not permitted"
  else .ok changed

/-- Set a limit, or tell one or all. -/
def ulimitWith : Builtin := fun _ words => do
  let letters ← takeLetters (['H', 'S', 'a'] ++ limitTitles.map LimitTitle.letter) [] words
  let asked := letters.found.map Prod.fst
  let kind : LimitKind := match (asked.filter fun c => c == 'H' || c == 'S').getLast? with
    | some 'H' => ⟨false, true⟩
    | some _ => ⟨true, false⟩
    | none => ⟨true, true⟩
  let letter := (asked.filter fun c => !(['H', 'S', 'a'].contains c)).getLast?.getD 'f'
  let s ← Run.shell
  let value (letter : Char) : Nat :=
    if kind.soft then s.limit letter
    else ((s.limits.find? fun limit => limit.letter == letter).map Limit.hard).getD unlimited
  let unit := ((limitTitles.find? fun entry => entry.letter == letter).map LimitTitle.unit).getD 1
  match letters.has 'a', letters.operands with
  | true, [] =>
    limitTitles.forM fun entry =>
      emitLine (entry.title ++ String.ofList (List.replicate (20 - entry.title.length) ' ') ++ " " ++
        limitText entry.unit (value entry.letter))
    return 0
  | false, [] =>
    emitLine (limitText unit (value letter))
    return 0
  | false, [word] =>
    let value ← limitOf unit word
    match s.limits.mapM fun limit => if limit.letter = letter then limit.set kind value else .ok limit with
    | .ok limits =>
      Run.modifyShell fun s => { s with limits }
      return 0
    | .error e => Run.fail ("error setting limit (" ++ e ++ ")")
  | _, _ => Run.fail "too many arguments"

end PassTuner.Toolbox.Shell

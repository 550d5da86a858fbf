import PassTuner.Toolbox.Shell.Expansion

/-! Redirections: where descriptors lead while a command runs. -/
namespace PassTuner.Toolbox.Shell

open Text (Stream)

/-- A redirection with its words expanded. -/
inductive Redirected where
  | opens (descriptor : Nat) (kind : Redirecting) (path : String)
  /-- leads where another descriptor leads, or nowhere -/
  | duplicates (descriptor : Nat) (other : Option Nat)
  | reads (descriptor : Nat) (text : Word) (expands : Bool)

/-- The descriptor that a word names: a digit, or a dash for none. -/
def descriptor? (word : List Char) : Option (Option Nat) :=
  match word with
  | ['-'] => some none
  | [d] => if d.isDigit then some (some (d.toNat - '0'.toNat)) else none
  | _ => none

def expandRedirection (m : Machine) : Redirection → Run Redirected
  | .mk descriptor kind target => do
    match kind with
    | .document number =>
      let text := ((← Run.shell).documents.lookup number).getD []
      return .reads descriptor text target.isEmpty
    | .duplicate =>
      let word ← expandText m Purpose.text target
      match descriptor? word.toList with
      | some other => return .duplicates descriptor other
      | none => Run.fail "Syntax error: Bad fd number"
    | kind => return .opens descriptor kind (← expandText m Purpose.text target)

/-- Paths that stand for descriptors of the one who opens them. -/
def descriptorOfPath? (path : String) : Option Nat :=
  match path with
  | "/dev/stdin" => some 0
  | "/dev/stdout" => some 1
  | "/dev/stderr" => some 2
  | _ =>
    ["/dev/fd/", "/proc/self/fd/"].findSome? fun start =>
      if path.startsWith start then
        let digits := path.toList.drop start.length
        if digits.isEmpty || !digits.all Char.isDigit then none else some (digitsIn 10 digits)
      else none

def openPath (kind : Redirecting) (path : String) : Run (Except FileError Nat) := do
  let s ← get
  match descriptorOfPath? path with
  | some descriptor =>
    match s.shell.descriptors.lookup descriptor with
    | some channel => return .ok channel
    | none => return .error .missing
  | none =>
    let files := s.world.files
    let writes := kind != .read
    match files.locate s.shell.directory path with
    | .error e => return .error e
    | .ok place =>
      let channel : Channel := .file place 0 (kind == .read || kind == .readWrite) writes (kind == .append)
      let truncates := kind == .write || kind == .clobber
      match files.node? place with
      | some .terminal => return .error .noDevice
      | some .directory => if writes then return .error .isDirectory
      | some .program => if writes then return .error .denied
      | some (.file _ _) =>
        if kind = .write && s.shell.options.contains 'C' then return .error .exists
        if truncates then
          match files.store place [] with
          | .ok files => Run.modifyWorld fun w => { w with files }
          | .error e => return .error e
      | some _ => pure ()
      | none =>
        if !writes then return .error .missing
        match files.store place [] with
        | .ok files => Run.modifyWorld fun w => { w with files }
        | .error e => return .error e
      return .ok (← Run.newChannel channel)

/-- How an error is told that came up when a file was opened. -/
def openMessage (writes : Bool) (e : FileError) : String :=
  match e with
  | .missing | .notDirectory => if writes then "Directory nonexistent" else "No such file"
  | e => e.message

def redirect (m : Machine) : Redirected → Run Unit
  | .opens descriptor kind path => do
    match ← openPath kind path with
    | .ok channel => Run.setDescriptor descriptor (some channel)
    | .error e =>
      let writes := kind != .read
      Run.fail ((if writes then "cannot create " else "cannot open ") ++ path ++ ": " ++ openMessage writes e)
  | .duplicates descriptor none => Run.setDescriptor descriptor none
  | .duplicates descriptor (some other) => do
    match (← Run.shell).descriptors.lookup other with
    | some channel => Run.setDescriptor descriptor (some channel)
    | none => Run.fail (toString other ++ ": " ++ FileError.badDescriptor.message)
  | .reads descriptor text expands => do
    let text ← if expands then expandDocument m text else
      pure (Item.text (text.filterMap fun part =>
        match part with
        | .char c | .literal c => some (Item.char c true false)
        | _ => none))
    let channel ← Run.newChannel (.source (.ofText text))
    Run.setDescriptor descriptor (some channel)

/-- Redirect one descriptor after another; tells whether that went well. -/
def redirectAll (m : Machine) (redirected : List Redirected) : Run Bool := do
  try
    redirected.forM (redirect m)
    return true
  catch stop =>
    if stop = .fault then return false else throw stop

/-- Run with descriptors redirected, or do something else if they cannot be. -/
def withRedirected {α : Type} (m : Machine) (redirected : List Redirected) (run : Run α) (otherwise : Run α) :
    Run α :=
  if redirected.isEmpty then run
  else
    Run.restoring (fun before s => { s with descriptors := before.descriptors }) do
      if ← redirectAll m redirected then run else otherwise

end PassTuner.Toolbox.Shell

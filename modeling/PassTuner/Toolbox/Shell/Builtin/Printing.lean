import PassTuner.Toolbox.Format
import PassTuner.Toolbox.Shell.Builtin.Basic
import PassTuner.Toolbox.Shell.Builtin.Test

/-! Commands of the shell's own that print, and that test. -/
namespace PassTuner.Toolbox.Shell

/-- Escapes in what `echo` prints. -/
def printedEscapes : EscapeStyle := ⟨false, true, .unknown, true, true, false⟩

/-- Print words with their escapes resolved. The end is left off if asked for; one that is in the
text ends all printing. -/
def echoWords (endless : Bool) : List String → List Char
  | [] => if endless then [] else ['\n']
  | word :: rest =>
    match printedEscapes.apply word.toList with
    | (text, .stopped) => text
    | (text, _) => text ++ match rest with
      | [] => if endless then [] else ['\n']
      | rest => ' ' :: echoWords endless rest

def echoWith : Builtin := fun _ words => do
  let bare := words.head? == some "-n"
  let words := if bare then words.drop 1 else words
  Run.emit (echoWords bare words)
  return 0

def scriptDialect : Dialect where
  escapes := ⟨false, true, .unknown, false, false, false⟩
  argumentEscapes := printedEscapes
  precision := .double
  flagLetters := ['-', '+', ' ', '0', '#']
  sizeLetters := []
  accepts d := d.conversion.any (['c', 's'] ++ signedLetters ++ unsignedLetters ++ realLetters).contains
  acceptsApart d := d.conversion == some 'b'
  invalid d := if d.conversion.isNone then "missing format character"
    else String.ofList d.written ++ ": invalid directive"
  called argument := argument
  notNumeric := "expected numeric value"
  incomplete := "not completely converted"
  restFirst := true
  warns := false
  takesLoneQuote := true
  failure := 2

def printfWith : Builtin := fun _ words => do
  let letters ← takeLetters [] [] words
  match letters.operands with
  | [] => Run.fail "usage: printf format [arg ...]"
  | format :: arguments =>
    let p := scriptDialect.run format arguments
    p.printed.forM fun (outlet, text) =>
      match outlet with
      | .output => Run.emit text
      | .errors => Run.complain (String.ofList text)
    return p.status

/-- The tree as a shell sees it: its descriptors have paths, under which stands what they lead to. -/
def filesSeen : Run Files := do
  let s ← get
  let names := [(0, "stdin"), (1, "stdout"), (2, "stderr")]
  let paths (descriptor : Nat) : List Place :=
    ["dev", "fd", toString descriptor] :: ((names.lookup descriptor).map fun name => ["dev", name]).toList
  let closed := names.foldl (fun (files : Files) (_, name) => files.clear ["dev", name]) s.world.files
  return s.shell.descriptors.foldl (fun files (descriptor, channel) =>
    let node := match s.world.channels.lookup channel with
      | some (.file place _ _ _ _) => s.world.files.node? place
      | _ => some .pipe
    (paths descriptor).foldl (fun files place => (node.map (files.put place)).getD files) files)
    (closed.put ["dev", "fd"] .directory)

def testWith (bracketed : Bool) : Builtin := fun _ words => do
  if bracketed && words.getLast? != some "]" then Run.fail "missing ]"
  let words := if bracketed then words.dropLast else words
  let s ← get
  let files ← if mayTestFiles words then filesSeen else pure s.world.files
  match Test.holds ⟨words, files, s.shell.directory⟩ with
  | .ok holds => return if holds then 0 else 1
  | .error text => Run.fail text

end PassTuner.Toolbox.Shell

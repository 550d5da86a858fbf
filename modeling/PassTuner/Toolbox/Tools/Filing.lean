import PassTuner.Toolbox.Tools.Naming

/-! Making, moving and taking away files and directories. -/
namespace PassTuner.Toolbox

open Text (Stream)

/-! ### Working on operands -/

/-- How far a tool has come that works on one operand after another. -/
structure Progress where
  files : Files
  printed : List (Outlet × Stream)
  failed : Bool

namespace Progress

def complain (p : Progress) (s : Setting) (text : String) : Progress :=
  { p with printed := p.printed ++ [s.complaint text], failed := true }

/-- Tell what was done, if asked for. -/
def tell (p : Progress) (verbose : Bool) (text : String) : Progress :=
  if verbose then { p with printed := p.printed ++ [(.output, .ofText (text ++ "\n").toList)] } else p

/-- Work on paths one after another, up to the first that fails. -/
def along (p : Progress) (paths : List String) (step : Progress → String → Progress) : Progress :=
  let q := paths.foldl (fun q path => if q.failed then q else step q path) { p with failed := false }
  { q with failed := p.failed || q.failed }

end Progress

def Setting.throughOperands (s : Setting) (operands : List String) (step : Progress → String → Progress) : Result :=
  let p := operands.foldl step ⟨s.files, [], false⟩
  { s.finish (if p.failed then 1 else 0) p.printed with files := p.files }

/-- The place of a path, and what stands there. -/
def Setting.place (s : Setting) (files : Files) (path : String) : Except FileError (Place × Option Node) := do
  let place ← files.locate s.directory path
  return (place, files.node? place)

/-- The options and operands of a tool that fails without operands; `missing` tells what is missing. -/
def Setting.withOperands (s : Setting) (known : List KnownOption) (missing : String)
    (run : FoundOptions → List String → Result) : Result :=
  match splitOptions (knownName "help" .none :: known) true s.words with
  | .error e => s.fail 1 (e ++ "\n" ++ helpHint s.name)
  | .ok (options, operands) =>
    if options.has "help" then s.print (helpText s.name)
    else if operands.isEmpty && !missing.isEmpty then s.fail 1 ("missing " ++ missing ++ "\n" ++ helpHint s.name)
    else run options operands

/-! ### Directories -/

def makeDirectory (s : Setting) (verbose parents : Bool) (p : Progress) (path : String) : Progress :=
  let refuse (e : FileError) : Progress :=
    p.complain s ("cannot create directory " ++ quoteForShell path ++ ": " ++ e.message)
  match s.place p.files (if path = "/" then path else String.ofList (dropSlashes path.toList)) with
  | .error e => refuse e
  | .ok (place, none) =>
    ({ p with files := p.files.put place .directory }).tell verbose
      (s.name ++ ": created directory " ++ quoteForShell path)
  | .ok (_, some .directory) => if parents then p else refuse .exists
  | .ok (_, some _) => refuse .exists

/-- The directories that lead to a path, and the path itself. -/
def leadsTo (path : String) : List String :=
  let names := (String.ofList (dropSlashes path.toList)).splitOn "/"
  let leads := (List.range names.length).map fun i => "/".intercalate (names.take (i + 1))
  if path.isEmpty then [""] else leads.filter fun lead => !lead.isEmpty && !lead.endsWith "/"

def makeDirectories (s : Setting) (verbose : Bool) (p : Progress) (path : String) : Progress :=
  p.along (leadsTo path) fun p lead =>
    match lead == (leadsTo path).getLast?.getD "", s.place p.files lead with
    | false, .ok (_, some .directory) => p
    | false, .ok (_, some _) =>
      p.complain s ("cannot create directory " ++ quoteForShell lead ++ ": " ++ FileError.notDirectory.message)
    | _, _ => makeDirectory s verbose true p lead

def mkdir : Tool := fun s =>
  s.withOperands [knownAs 'p' "parents" .none, knownAs 'v' "verbose" .none, knownAs 'm' "mode" .required]
    "operand" fun options operands =>
      let verbose := options.has "v"
      s.throughOperands operands
        (if options.has "p" then makeDirectories s verbose else makeDirectory s verbose false)

/-- Take away one directory, if it is empty. -/
def removeDirectory (s : Setting) (verbose fullStays isLead : Bool) (p : Progress) (path : String) : Progress :=
  let quoted := quoteForShell path
  let p := p.tell verbose (s.name ++ ": removing directory, " ++ quoted)
  let refuse (text : String) : Progress :=
    p.complain s ("failed to remove " ++ (if isLead then "directory " else "") ++ quoted ++ ": " ++ text)
  if lastName path.toList = ['.'] then refuse "Invalid argument"
  else match s.place p.files (String.ofList (dropSlashes path.toList)) with
    | .error e => refuse e.message
    | .ok (_, none) => refuse FileError.missing.message
    | .ok (place, some .directory) =>
      if (p.files.namesIn place).isEmpty then { p with files := p.files.clear place }
      else if fullStays then p
      else refuse FileError.notEmpty.message
    | .ok (_, some _) => refuse FileError.notDirectory.message

/-- Take away directories that are empty, and perhaps those that lead to them. -/
def rmdir : Tool := fun s =>
  s.withOperands [knownAs 'p' "parents" .none, knownAs 'v' "verbose" .none,
      knownName "ignore-fail-on-non-empty" .none] "operand" fun options operands =>
    let remove := removeDirectory s (options.has "v") (options.has "ignore-fail-on-non-empty")
    s.throughOperands operands fun p path =>
      let leads := if options.has "p" then (leadsTo path).dropLast.reverse else []
      p.along (path :: leads) fun p lead => remove (lead != path) p lead

/-! ### Files -/

/-- Make files that are not there, with nothing in them. -/
def touch : Tool := fun s =>
  s.withOperands [knownLetter 'a' .none, knownAs 'c' "no-create" .none, knownAs 'd' "date" .required,
      knownLetter 'f' .none, knownAs 'h' "no-dereference" .none, knownLetter 'm' .none,
      knownAs 'r' "reference" .required, knownLetter 't' .required, knownName "time" .required]
    "file operand" fun options operands =>
      s.throughOperands operands fun p path =>
        match s.place p.files path with
        | .ok (_, some _) => p
        | .ok (place, none) =>
          if options.has "c" then p else { p with files := p.files.put place (.file [] false) }
        | .error e =>
          let verb := if path.endsWith "/" then "setting times of " else "cannot touch "
          if options.has "c" && e == .missing then p
          else p.complain s (verb ++ quoteForShell path ++ ": " ++ e.message)

/-- How files are taken away. -/
structure Removal where
  forced : Bool
  deep : Bool
  emptyDirectories : Bool
  verbose : Bool
  deriving DecidableEq, Repr

/-- What is told when all in a directory is taken away, the directory last. The levels are counted
down. -/
def Removal.tellDeep (r : Removal) (files : Files) : Nat → Place → String → Progress → Progress
  | 0, _, _, p => p
  | fuel + 1, place, path, p =>
    if files.isDirectory place then
      let names := (files.namesIn place).mergeSort fun a b => decide (a ≤ b)
      let p := names.foldl (fun p name => r.tellDeep files fuel (place ++ [name]) (path ++ "/" ++ name) p) p
      p.tell r.verbose ("removed directory " ++ quoteForShell path)
    else p.tell r.verbose ("removed " ++ quoteForShell path)

def Removal.apply (r : Removal) (s : Setting) (p : Progress) (path : String) : Progress :=
  let refuse (e : FileError) : Progress :=
    p.complain s ("cannot remove " ++ quoteForShell path ++ ": " ++ e.message)
  let last := lastName path.toList
  match s.place p.files path with
  | .error e => if r.forced then p else refuse e
  | .ok (_, none) => if r.forced then p else refuse .missing
  | .ok (place, some .directory) =>
    if r.deep && place.isEmpty then
      p.complain s ("it is dangerous to operate recursively on " ++ quoteForShell path ++
        "\n" ++ s.name ++ ": use --no-preserve-root to override this failsafe")
    else if r.deep && (last == ['.'] || last == ['.', '.']) then
      p.complain s ("refusing to remove '.' or '..' directory: skipping " ++ quoteForShell path)
    else if r.deep || (r.emptyDirectories && (p.files.namesIn place).isEmpty) then
      let told := r.tellDeep p.files (p.files.nodes.length + 1) place path p
      { told with files := told.files.clear place }
    else refuse (if r.emptyDirectories then .notEmpty else .isDirectory)
  | .ok (place, some _) =>
    { p with files := p.files.clear place }.tell r.verbose ("removed " ++ quoteForShell path)

def rm : Tool := fun s =>
  let known := [knownAs 'f' "force" .none, knownAs 'r' "recursive" .none, ⟨"r", some 'R', none, .none⟩,
    knownAs 'd' "dir" .none, knownAs 'v' "verbose" .none, knownLetter 'i' .none, knownLetter 'I' .none,
    knownName "interactive" .optional, knownName "one-file-system" .none, knownName "preserve-root" .optional,
    knownName "no-preserve-root" .none]
  let isForced := match splitOptions known true s.words with
    | .ok (options, _) => options.has "f"
    | .error _ => false
  s.withOperands known (if isForced then "" else "operand") fun options operands =>
    s.throughOperands operands
      (Removal.mk (options.has "f") (options.has "r") (options.has "d") (options.has "v") |>.apply s)

/-! ### Moving and copying -/

/-- The files after all that is in a place has come to stand in another as well. -/
def copyTree (files : Files) (source target : Place) : Files :=
  (files.nodes.reverse.filter fun (place, _) => source.isPrefixOf place).foldl
    (fun files (place, node) => files.put (target ++ place.drop source.length) node) files

/-- How files come to another place. -/
structure Transfer where
  /-- they do not stay in their own -/
  moves : Bool
  /-- directories come with all that is in them -/
  deep : Bool
  /-- what is there stays there -/
  keeps : Bool
  verbose : Bool
  deriving DecidableEq, Repr

namespace Transfer

def telling (t : Transfer) (source target : String) : String :=
  (if t.moves then "renamed " else "") ++ quoteForShell source ++ " -> " ++ quoteForShell target

def bring (t : Transfer) (s : Setting) (p : Progress) (source target : String) (place : Place) (node : Node) :
    Progress :=
  let (q, r) := (quoteForShell source, quoteForShell target)
  let refuseTarget (e : FileError) : Progress :=
    if t.moves then p.complain s ("cannot move " ++ q ++ " to " ++ r ++ ": " ++ e.message)
    else p.complain s ("cannot create regular file " ++ r ++ ": " ++ e.message)
  let isDirectory := node == .directory
  let last := lastName source.toList
  let isBusy := t.moves && (last == ['.'] || last == ['.', '.'])
  let arrive (reached : Place) : Progress :=
    let written : Except FileError Files :=
      if isDirectory || t.moves then .ok (copyTree p.files place reached)
      else do
        let content ← Files.content node
        let files ← p.files.store reached content.text
        return match node, p.files.node? reached, files.node? reached with
          | .file _ executable, none, some (.file bytes _) => files.put reached (.file bytes executable)
          | _, _, _ => files
    match written with
    | .error e => refuseTarget e
    | .ok files =>
      let files := if t.moves then files.clear place else files
      { p with files }.tell t.verbose (t.telling source target)
  match s.place p.files (if isDirectory then String.ofList (dropSlashes target.toList) else target) with
  | .error .notDirectory => p.complain s ("cannot stat " ++ r ++ ": " ++ FileError.notDirectory.message)
  | .error .missing =>
    if !isDirectory && target.endsWith "/" then refuseTarget .notDirectory else refuseTarget .missing
  | .error e => refuseTarget e
  | .ok (reached, there) =>
    if t.keeps && there.isSome then if t.moves then p.complain s ("not replacing " ++ r) else p
    else if reached = place then p.complain s (q ++ " and " ++ r ++ " are the same file")
    else match isDirectory, there with
      | true, none | true, some .directory =>
        if isBusy then p.complain s ("cannot move " ++ q ++ " to " ++ r ++ ": Device or resource busy")
        else if place.isPrefixOf reached then
          p.complain s (if t.moves then "cannot move " ++ q ++ " to a subdirectory of itself, " ++ r
            else "cannot copy a directory, " ++ q ++ ", into itself, " ++ r)
        else if t.moves && !(p.files.namesIn reached).isEmpty then
          p.complain s ("cannot overwrite " ++ r ++ ": " ++ FileError.notEmpty.message)
        else arrive reached
      | true, some _ => p.complain s ("cannot overwrite non-directory " ++ r ++ " with directory " ++ q)
      | false, some .directory => p.complain s ("cannot overwrite directory " ++ r ++ " with non-directory")
      | false, _ => arrive reached

/-- Bring what is in the place of one path to another path. -/
def apply (t : Transfer) (s : Setting) (p : Progress) (source target : String) : Progress :=
  let q := quoteForShell source
  match s.place p.files source with
  | .error e => p.complain s ("cannot stat " ++ q ++ ": " ++ e.message)
  | .ok (_, none) => p.complain s ("cannot stat " ++ q ++ ": " ++ FileError.missing.message)
  | .ok (place, some node) =>
    if node = .directory ∧ !t.moves ∧ !t.deep then
      p.complain s ("-r not specified; omitting directory " ++ q)
    else t.bring s p source target place node

def pathIn (directory source : String) : String :=
  let name := String.ofList (lastName source.toList)
  if directory.endsWith "/" then directory ++ name else directory ++ "/" ++ name

/-- Bring operands to the last of them, or into it. -/
def run (t : Transfer) (s : Setting) (options : FoundOptions) (operands : List String) : Result :=
  let into (directory : String) (sources : List String) : Result :=
    match s.place s.files directory with
    | .ok (_, some .directory) =>
      s.throughOperands sources fun p source => t.apply s p source (pathIn directory source)
    | .ok (_, some _) => s.fail 1 ("target " ++ quoteForShell directory ++ ": " ++ FileError.notDirectory.message)
    | .ok (_, none) => s.fail 1 ("target " ++ quoteForShell directory ++ ": " ++ FileError.missing.message)
    | .error e => s.fail 1 ("target " ++ quoteForShell directory ++ ": " ++ e.message)
  match (options.values "t").getLast?, operands with
  | some directory, sources => into directory sources
  | none, [source] =>
    s.fail 1 ("missing destination file operand after " ++ quoteForShell source ++ "\n" ++ helpHint s.name)
  | none, operands =>
    let (sources, target) := (operands.dropLast, operands.getLast?.getD "")
    let isDirectory := match s.place s.files target with
      | .ok (_, some .directory) => true
      | _ => false
    match options.has "T", sources with
    | true, [source] => s.throughOperands [source] fun p source => t.apply s p source target
    | true, _ => s.fail 1 ("extra operand " ++ quoteForShell (operands.getD 2 "") ++ "\n" ++ helpHint s.name)
    | false, [source] =>
      if isDirectory then into target [source]
      else s.throughOperands [source] fun p source => t.apply s p source target
    | false, sources => into target sources

end Transfer

def transferOptions : List KnownOption :=
  [knownAs 'f' "force" .none, knownAs 'i' "interactive" .none, knownAs 'n' "no-clobber" .none,
   knownAs 't' "target-directory" .required, knownAs 'T' "no-target-directory" .none,
   knownAs 'u' "update" .none, knownAs 'v' "verbose" .none, knownName "strip-trailing-slashes" .none]

def mv : Tool := fun s =>
  s.withOperands transferOptions "file operand" fun options operands =>
    (Transfer.mk true true (options.has "n") (options.has "v")).run s options operands

def cp : Tool := fun s =>
  let known := [knownAs 'r' "recursive" .none, ⟨"r", some 'R', none, .none⟩, knownAs 'a' "archive" .none,
    knownAs 'p' "preserve" .none, knownAs 'd' "no-dereference" .none, ⟨"d", some 'P', none, .none⟩,
    knownAs 'L' "dereference" .none, knownLetter 'H' .none, knownAs 'x' "one-file-system" .none]
  s.withOperands (transferOptions ++ known) "file operand" fun options operands =>
    let (deep, keeps) := (options.has "r" || options.has "a", options.has "n")
    let r := (Transfer.mk false deep keeps (options.has "v")).run s options operands
    let warning := s.complaint ("warning: behavior of -n is non-portable and may change in future; " ++
      "use --update=none instead")
    if keeps then { r with printed := warning :: r.printed } else r

end PassTuner.Toolbox

import PassTuner.Toolbox.Options
import PassTuner.Toolbox.Shell.Pattern
import PassTuner.Toolbox.Tools.LineSearch

/-! Searching files for lines: what options ask for, which files are searched, and in what order things
go wrong. -/
namespace PassTuner.Toolbox

open Text (Stream)

def grepOptions : List KnownOption :=
  [knownAs 'c' "count" .none, knownAs 'q' "quiet" .none, ⟨"q", none, some "silent", .none⟩,
   knownAs 'v' "invert-match" .none, knownAs 'i' "ignore-case" .none, ⟨"i", some 'y', none, .none⟩,
   knownName "no-ignore-case" .none, knownAs 'F' "fixed-strings" .none,
   knownAs 'E' "extended-regexp" .none, knownAs 'G' "basic-regexp" .none,
   knownAs 'P' "perl-regexp" .none, knownLetter 'X' .required, knownAs 'e' "regexp" .required,
   knownAs 'f' "file" .required, knownAs 's' "no-messages" .none, knownAs 'n' "line-number" .none,
   knownAs 'b' "byte-offset" .none, knownAs 'H' "with-filename" .none, knownAs 'h' "no-filename" .none,
   knownAs 'o' "only-matching" .none, knownAs 'l' "files-with-matches" .none,
   knownAs 'L' "files-without-match" .none, knownAs 'm' "max-count" .required,
   knownAs 'w' "word-regexp" .none, knownAs 'x' "line-regexp" .none, knownAs 'a' "text" .none,
   knownName "binary-files" .required, knownAs 'A' "after-context" .required,
   knownAs 'B' "before-context" .required, knownAs 'C' "context" .required,
   knownName "group-separator" .required, knownName "no-group-separator" .none,
   knownAs 'U' "binary" .none, knownAs 'u' "unix-byte-offsets" .none, knownLetter 'I' .none,
   knownAs 'T' "initial-tab" .none, knownAs 'Z' "null" .none, knownAs 'z' "null-data" .none,
   knownName "label" .required, knownName "line-buffered" .none, knownName "color" .optional,
   ⟨"color", none, some "colour", .optional⟩, knownAs 'r' "recursive" .none,
   ⟨"r", some 'R', some "dereference-recursive", .none⟩, knownAs 'd' "directories" .required,
   knownAs 'D' "devices" .required, knownName "include" .required, knownName "exclude" .required,
   knownName "exclude-from" .required, knownName "exclude-dir" .required,
   ⟨"V", some 'V', some "version", .none⟩, ⟨"about", none, some "help", .none⟩] ++
    "0123456789".toList.map fun digit => knownLetter digit .none

/-- How the tool is called, behind a mistake in its words. -/
def grepUsage : String := "Usage: grep [OPTION]... PATTERNS [FILE]...\n" ++ helpHint "grep"

/-- What is done with directories that are named. -/
inductive DirectoryAction where
  | read
  | recurse
  | skip
  deriving DecidableEq, Repr

def DirectoryAction.all : List (String × DirectoryAction) :=
  [("read", .read), ("recurse", .recurse), ("skip", .skip)]

/-- What options ask for. -/
structure SearchRequest where
  search : LineSearch
  /-- the patterns that are given by options -/
  patterns : Option (List (List Char))
  /-- how patterns are written, by the name of a tool -/
  matcher : Option String
  /-- names are told, or not told, whatever is searched -/
  named : Option Bool
  /-- the lines around a match, unless asked for on one side -/
  context : Option Nat
  before : Option Nat
  behind : Option Nat
  digits : List Char
  directories : DirectoryAction
  skipsDevices : Bool
  /-- patterns for names of files, each of which is searched or passed over -/
  filters : List (Bool × String)
  passedDirectories : List String
  label : String
  silent : Bool
  wantsHelp : Bool
  wantsVersion : Bool
  warnings : List String
  /-- the input was read for patterns -/
  inputTaken : Bool

namespace SearchRequest

def start : SearchRequest where
  search := .plain
  patterns := none
  matcher := none
  named := none
  context := none
  before := none
  behind := none
  digits := []
  directories := .read
  skipsDevices := false
  filters := []
  passedDirectories := []
  label := "(standard input)"
  silent := false
  wantsHelp := false
  wantsVersion := false
  warnings := []
  inputTaken := false

/-- Why a search cannot begin: a status and a complaint. -/
abbrev Refusal := Nat × String

def setMatcher (r : SearchRequest) (name : String) : Except Refusal SearchRequest :=
  if r.matcher.all (· == name) then .ok { r with matcher := some name }
  else .error (2, "conflicting matchers specified")

def patternLines (text : List Char) : List (List Char) :=
  text.foldr (fun c lines =>
    match lines with
    | line :: rest => if c = '\n' then [] :: lines else (c :: line) :: rest
    | [] => [[c]]) [[]]

def addPatterns (r : SearchRequest) (patterns : List (List Char)) : SearchRequest :=
  { r with patterns := some (r.patterns.getD [] ++ patterns) }

def contextOf (value : String) : Except Refusal Nat :=
  match readWhole? false value.toList with
  | some (i, []) => if 0 ≤ i then .ok i.toNat else .error (2, value ++ ": invalid context length argument")
  | _ => .error (2, value ++ ": invalid context length argument")

/-- What is done with directories, by a name that may be cut short. -/
def actionOf (value : String) : Except Refusal DirectoryAction :=
  let named := DirectoryAction.all.filter fun entry => entry.1.startsWith value
  match DirectoryAction.all.lookup value, named with
  | some action, _ => .ok action
  | none, [(_, action)] => .ok action
  | none, named =>
    .error (1, (if named.isEmpty then "invalid" else "ambiguous") ++ " argument " ++ quoteName value ++
      " for '--directories'\nValid arguments are:\n" ++
      String.join (DirectoryAction.all.map fun entry => "  - '" ++ entry.1 ++ "'\n") ++ grepUsage)

def take (s : Setting) (r : SearchRequest) (option : String × Option String) : Except Refusal SearchRequest :=
  let value := option.2.getD ""
  let g := r.search
  match option.1 with
  | "c" => .ok { r with search.counts := true }
  | "q" => .ok { r with search.quiet := true }
  | "v" => .ok { r with search.inverted := true }
  | "i" => .ok { r with search.folds := true }
  | "no-ignore-case" => .ok { r with search.folds := false }
  | "F" => r.setMatcher "fgrep"
  | "E" => r.setMatcher "egrep"
  | "G" => r.setMatcher "grep"
  | "P" => r.setMatcher "perl"
  | "X" =>
    if ["grep", "egrep", "fgrep", "awk", "gawk", "posixawk", "perl"].contains value then r.setMatcher value
    else .error (2, "invalid matcher " ++ value)
  | "e" => .ok (r.addPatterns (patternLines value.toList))
  | "f" =>
    let isInput := Setting.isInput value
    match if isInput && r.inputTaken then .ok .empty else s.open? value with
    | .error e => .error (2, value ++ ": " ++ e.message)
    | .ok stream =>
      .ok { r.addPatterns ((linesOf [] stream.text).map dropEnd) with inputTaken := r.inputTaken || isInput }
  | "s" => .ok { r with silent := true }
  | "n" => .ok { r with search.numbers := true }
  | "b" => .ok { r with search.offsets := true }
  | "H" => .ok { r with named := some true }
  | "h" => .ok { r with named := some false }
  | "o" => .ok { r with search.matchesOnly := true }
  | "l" => .ok { r with search := { g with namesWith := true, namesWithout := false } }
  | "L" => .ok { r with search := { g with namesWith := false, namesWithout := true } }
  | "m" =>
    match readWhole? false value.toList with
    | some (i, []) => .ok { r with search.most := if i < 0 then none else some i.toNat }
    | _ => .error (2, "invalid max count")
  | "w" => .ok { r with search.bounds := if g.bounds = .line then .line else .words }
  | "x" => .ok { r with search.bounds := .line }
  | "a" => .ok { r with search.binaries := .asText }
  | "I" => .ok { r with search.binaries := .skipped }
  | "binary-files" =>
    match value with
    | "binary" => .ok { r with search.binaries := .unshown }
    | "text" => .ok { r with search.binaries := .asText }
    | "without-match" => .ok { r with search.binaries := .skipped }
    | _ => .error (2, "unknown binary-files type")
  | "A" => do .ok { r with behind := some (← contextOf value) }
  | "B" => do .ok { r with before := some (← contextOf value) }
  | "C" => do .ok { r with context := some (← contextOf value) }
  | "group-separator" => .ok { r with search.separator := some value }
  | "no-group-separator" => .ok { r with search.separator := none }
  | "u" => .ok { r with warnings := r.warnings ++ ["warning: --unix-byte-offsets (-u) is obsolete"] }
  | "T" => .ok { r with search.tabbed := true }
  | "Z" => .ok { r with search.zeroNames := true }
  | "z" => .ok { r with search.lineEnd := Char.ofNat 0 }
  | "label" => .ok { r with label := value }
  | "color" =>
    if option.2.isNone || ["auto", "tty", "if-tty", "never", "no", "none"].contains value then
      .ok { r with search.colored := false }
    else if ["always", "yes", "force"].contains value then .ok { r with search.colored := true }
    else .ok { r with wantsHelp := true }
  | "r" => .ok { r with directories := .recurse }
  | "d" => do .ok { r with directories := ← actionOf value }
  | "D" =>
    match value with
    | "read" => .ok { r with skipsDevices := false }
    | "skip" => .ok { r with skipsDevices := true }
    | _ => .error (2, "unknown devices method")
  | "include" => .ok { r with filters := (true, value) :: r.filters }
  | "exclude" => .ok { r with filters := (false, value) :: r.filters }
  | "exclude-from" =>
    match s.open? value with
    | .error e => .error (2, value ++ ": " ++ e.message)
    | .ok stream =>
      let names := ((linesOf [] stream.text).map dropEnd).filter (!·.isEmpty)
      .ok { r with filters := names.reverse.map (fun name => (false, String.ofList name)) ++ r.filters }
  | "exclude-dir" => .ok { r with passedDirectories := value :: r.passedDirectories }
  | "V" => .ok { r with wantsVersion := true }
  | "about" => .ok { r with wantsHelp := true }
  | key =>
    match key.toList with
    | [digit] =>
      if digit.isDigit then
        let digits := r.digits ++ [digit]
        .ok { r with digits, context := some (digitsIn 10 digits) }
      else .ok r
    | _ => .ok r

/-- Whether a name, or the end of one behind a slash, matches a pattern. -/
def matchesName (pattern name : List Char) : Bool :=
  Shell.matchesPattern pattern name ||
    (List.range name.length).any fun i =>
      (name.drop i).head? == some '/' && Shell.matchesPattern pattern (name.drop (i + 1))

/-- Whether a file is passed over. The last pattern that matches decides, and if none does, the kind of
the first. -/
def passesOver (r : SearchRequest) (name : String) : Bool :=
  match r.filters.find? fun entry => matchesName entry.2.toList name.toList with
  | some (searched, _) => !searched
  | none => (r.filters.getLast?.map Prod.fst).getD false

def passesOverDirectory (r : SearchRequest) (name : String) : Bool :=
  r.passedDirectories.any fun pattern => matchesName pattern.toList name.toList

/-- The files below a directory, in the order of their names, each behind the path that leads to it. The
levels are counted down by `fuel`. -/
def filesBelow (r : SearchRequest) (files : Files) : Nat → (path : String) → Place → List String
  | 0, _, _ => []
  | fuel + 1, path, place =>
    ((files.namesIn place).mergeSort (fun a b => decide (a ≤ b))).flatMap fun name =>
      let inner := (if path.isEmpty || path.endsWith "/" then path else path ++ "/") ++ name
      match files.node? (place ++ [name]) with
      | some .directory =>
        if r.passesOverDirectory name then [] else r.filesBelow files fuel inner (place ++ [name])
      | some (.file _ _) => if r.passesOver name then [] else [inner]
      | _ => []

/-- The names that an operand stands for: itself, nothing, or files below it. -/
def namesOf (s : Setting) (r : SearchRequest) (bare : Bool) (name : String) : List String :=
  if name = "-" then [name]
  else match s.files.locate s.directory name with
    | .error _ => [name]
    | .ok place =>
      match s.files.node? place with
      | none => [name]
      | some .directory =>
        match r.directories with
        | .read => [name]
        | .skip => []
        | .recurse =>
          if r.passesOverDirectory name then []
          else r.filesBelow s.files (s.files.nodes.length + 1) (if bare then "" else name) place
      | some (.file _ _) | some .program => if r.passesOver name then [] else [name]
      | some _ => if r.skipsDevices || r.passesOver name then [] else [name]

end SearchRequest

/-- A pattern as it is read to tell lines, and to find its places. -/
structure ReadPattern where
  pattern : Regex
  places : Regex

/-- Read the patterns: alternatives of one expression, and what is strange about them; or all that
is wrong with them. -/
def readPatterns (matcher : String) (folds : Bool) (patterns : List (List Char)) :
    Except (List Regex.Mistake) (Option ReadPattern × List String) :=
  let form : Regex.Form := ⟨matcher != "grep", folds, false⟩
  let readings := patterns.map fun text =>
    if matcher = "fgrep" then .ok (Regex.fixed text, Regex.fixed text, [])
    else do
      let (pattern, warnings) ← Regex.read form text
      let places := match Regex.read { form with places := true } text with
        | .ok (places, _) => places
        | .error _ => pattern
      .ok (pattern, places, warnings)
  let mistakes := readings.filterMap fun reading =>
    match reading with
    | .error mistake => some mistake
    | .ok _ => none
  let parts := readings.filterMap Except.toOption
  let early := mistakes.filter fun mistake => !mistake.isLate
  if !early.isEmpty then .error early
  else if !mistakes.isEmpty then .error (mistakes.take 1)
  else match parts with
    | [] => .ok (none, [])
    | (pattern, places, _) :: rest =>
      .ok (some ⟨(rest.map fun part => part.1).foldl Regex.either pattern,
        (rest.map fun part => part.2.1).foldl Regex.either places⟩, parts.flatMap fun part => part.2.2)

/-- Search the opened operands: what is printed, whether a line was selected, and whether
something went wrong. -/
def searchAll (s : Setting) (r : SearchRequest) (g : LineSearch)
    (opened : List (String × Except FileError Stream)) : List (Outlet × Stream) × Bool × Bool :=
  opened.foldl (fun (printed, found, failed) (name, held) =>
    let title := if name = "-" then r.label else name
    let first := printed.all fun chunk => chunk.1 == .errors || chunk.2.text.isEmpty
    if g.quiet && found then (printed, found, failed)
    else match held with
      | .ok stream =>
        let (count, text, keptBack) := g.run title first stream.text
        let complaint := if keptBack then [s.complaint (title ++ ": binary file matches")] else []
        (printed ++ (.output, .ofText text) :: complaint, found || 0 < count, failed)
      | .error e =>
        let complaint := if r.silent then [] else [s.complaint (title ++ ": " ++ e.message)]
        let text := if e = .isDirectory then (g.run title first []).2.1 else []
        (printed ++ complaint ++ [(.output, .ofText text)], found, true)) ([], false, false)

/-- What a search leaves of an input that is a file: what lies behind the last line it needed. -/
def leftAfterSearch (s : Setting) (g : LineSearch) : Stream :=
  if s.inputSize.isNone || (g.most.isNone && !g.quiet) then .empty
  else
    let lines := linesEndingIn g.lineEnd s.input.text
    let marked := g.mark 1 0 (if g.quiet then some 1 else g.most) lines
    let count := marked.countP LineSearch.Numbered.selected
    if some count = (if g.quiet then some 1 else g.most) then
      let last := ((marked.filter LineSearch.Numbered.selected).getLast?.map LineSearch.Numbered.number).getD 0
      .ofText (lines.drop last).flatten
    else .empty

/-- Search operands for patterns. No pattern at all is found nowhere. -/
def searchOperands (s : Setting) (r : SearchRequest) (patterns : List (List Char)) (operands : List String) : Result :=
  let s := if r.inputTaken then { s with input := .empty } else s
  let g := r.search
  let g := if patterns.isEmpty then { g with inverted := !g.inverted, bounds := .anywhere } else g
  let patterns := if patterns.isEmpty then [[]] else patterns
  let findsNothing := g.most == some 0 || (patterns == [[]] && g.inverted && g.bounds == .anywhere)
  if findsNothing && !g.namesWithout then s.finish 1 []
  else match readPatterns (r.matcher.getD "grep") g.folds patterns with
    | .error mistakes => s.finish 2 (mistakes.map fun mistake => s.complaint mistake.message)
    | .ok (pattern, warnings) =>
      let recurses := r.directories == .recurse
      let bare := operands.isEmpty && recurses
      let given := if !operands.isEmpty then operands else if recurses then ["."] else ["-"]
      let names := given.flatMap (r.namesOf s bare)
      let named := r.named.getD (1 < given.length || (recurses && names != given))
      let before := (r.before <|> r.context).getD 0
      let behind := (r.behind <|> r.context).getD 0
      let g := { g with
        pattern := pattern.map ReadPattern.pattern
        places := pattern.map ReadPattern.places
        named, before, behind
        grouped := r.context.isSome || r.before.isSome || r.behind.isSome }
      let opened := s.openAll names
      let warned := (r.warnings ++ warnings.map ("warning: " ++ ·)).map s.complaint
      let (printed, found, failed) := searchAll s r g opened
      { s.finish (if failed && !(g.quiet && found) then 2 else if found then 0 else 1) (warned ++ printed) with
        left := if names.any Setting.isInput then leftAfterSearch s g else s.input
        milliseconds := if anyEndless opened then none else some 0 }

/-- Print or count the lines in which a pattern is found. -/
def grep : Tool := fun s =>
  match splitOptions grepOptions true s.words with
  | .error e => s.fail 2 (e ++ "\n" ++ grepUsage)
  | .ok (options, operands) =>
    match options.foldlM (SearchRequest.take s) SearchRequest.start with
    | .error (status, text) => s.fail status text
    | .ok r =>
      if r.wantsVersion then s.print "grep (GNU grep) 3.8\n".toList
      else if r.wantsHelp then s.print (grepUsage ++ "\n").toList
      else match r.patterns, operands with
        | some patterns, operands => searchOperands s r patterns operands
        | none, pattern :: operands => searchOperands s r (SearchRequest.patternLines pattern.toList) operands
        | none, [] => s.finish 2 [(.errors, .ofText (grepUsage ++ "\n").toList)]

end PassTuner.Toolbox

/-! The words of the command line: which command is meant, and its options.

Words are taken in order, and the first fault or request for help decides. A value follows its
option as the next word, or behind an equals sign; no value is empty, and a value that is a word of
its own does not look like an option. Behind `--` come the words of a measuring command. -/
namespace PassTuner.CommandLine

/-- Why there is nothing to run. -/
inductive Usage where
  | help
  | wrong
  deriving DecidableEq, Repr

/-- What the value of an option must be. -/
inductive Kind where
  | flag
  | path
  | number
  deriving DecidableEq, Repr

abbrev Known := List (String × Kind)

/-- Options met so far, with their values. -/
abbrev Found := List (String × String)

/-- A number of 64 bits, perhaps with a plus in front. -/
def number? (text : String) : Option Nat :=
  let digits := match text.toList with
    | '+' :: digits => digits
    | digits => digits
  if digits.isEmpty || !digits.all Char.isDigit then none
  else
    let n := digits.foldl (fun n c => 10 * n + (c.toNat - '0'.toNat)) 0
    if n ≤ 0xffffffffffffffff then some n else none

def Kind.accepts (value : String) : Kind → Bool
  | .flag => true
  | .path => !value.isEmpty
  | .number => (number? value).isSome

/-- Whether a word is taken for an option. A single dash is a value. -/
def looksLikeOption (word : String) : Bool := word.startsWith "-" && word != "-"

/-- The name of a long option without its dashes, and the value behind an equals sign. -/
def splitLong (word : String) : String × Option String :=
  let text := word.toList.drop 2
  match text.dropWhile (· != '=') with
  | [] => (String.ofList text, none)
  | _ :: value => (String.ofList (text.takeWhile (· != '=')), some (String.ofList value))

/-- Add an option that was not met before. -/
def addOption (found : Found) (name value : String) (kind : Kind) : Except Usage Found :=
  if (found.lookup name).isSome || !kind.accepts value then .error .wrong
  else .ok ((name, value) :: found)

/-- Read options up to the end of the line, or up to `--` and give the words behind it. -/
def readOptions (known : Known) : List String → Found → Except Usage (Found × Option (List String))
  | [], found => .ok (found, none)
  | word :: rest, found =>
    if word = "--" then .ok (found, some rest)
    else if word.startsWith "--" then
      match splitLong word with
      | ("help", none) => .error .help
      | (name, attached) =>
        match known.lookup name, attached with
        | none, _ | some .flag, some _ => .error .wrong
        | some .flag, none => do
          let found ← addOption found name "" .flag
          readOptions known rest found
        | some kind, some value => do
          let found ← addOption found name value kind
          readOptions known rest found
        | some kind, none =>
          match rest with
          | value :: rest =>
            if looksLikeOption value then .error .wrong
            else do
              let found ← addOption found name value kind
              readOptions known rest found
          | [] => .error .wrong
    else if word.startsWith "-h" then .error .help
    else .error .wrong

structure SearchOptions where
  features : String
  catalog : Option String
  config : Option String
  knowledgeBase : Option String
  generations : Option Nat
  candidates : Option Nat
  seed : Option Nat
  timeout : Option Nat
  parameterized : Bool
  report : Option String
  /-- the measuring command -/
  words : List String
  deriving DecidableEq, Repr

inductive Command where
  /-- search with a measuring command -/
  | search (options : SearchOptions)
  /-- print the best candidates of a knowledge base -/
  | inspect (knowledgeBase : String) (top : Nat)
  /-- list the decision points of a catalog -/
  | catalog (catalog : Option String) (parameterized : Bool)
  deriving DecidableEq, Repr

def searchOptions : Known :=
  [("features", .path), ("catalog", .path), ("config", .path), ("knowledge-base", .path),
   ("generations", .number), ("candidates", .number), ("seed", .number), ("timeout-ms", .number),
   ("parameterized", .flag), ("report", .path)]

def inspectOptions : Known := [("knowledge-base", .path), ("top", .number)]

def catalogOptions : Known := [("catalog", .path), ("parameterized", .flag)]

/-- How many candidates are printed if no number is given. -/
def defaultTop : Nat := 10

def numberOf (found : Found) (name : String) : Option Nat := (found.lookup name).bind number?

/-- The words of a measuring command, of which there must be one at least. -/
def readSearch (words : List String) : Except Usage Command := do
  let (found, trailing) ← readOptions searchOptions words []
  match found.lookup "features", trailing.getD [] with
  | none, _ | _, [] => .error .wrong
  | some features, program :: arguments => .ok <| .search {
      features
      catalog := found.lookup "catalog"
      config := found.lookup "config"
      knowledgeBase := found.lookup "knowledge-base"
      generations := numberOf found "generations"
      candidates := numberOf found "candidates"
      seed := numberOf found "seed"
      timeout := numberOf found "timeout-ms"
      parameterized := (found.lookup "parameterized").isSome
      report := found.lookup "report"
      words := program :: arguments }

/-- Options of a command that measures nothing. -/
def readPlain (known : Known) (words : List String) : Except Usage Found := do
  let (found, trailing) ← readOptions known words []
  if (trailing.getD []).isEmpty then .ok found else .error .wrong

def readInspect (words : List String) : Except Usage Command := do
  let found ← readPlain inspectOptions words
  match found.lookup "knowledge-base" with
  | some path => .ok (.inspect path ((numberOf found "top").getD defaultTop))
  | none => .error .wrong

def readCatalog (words : List String) : Except Usage Command := do
  let found ← readPlain catalogOptions words
  .ok (.catalog (found.lookup "catalog") (found.lookup "parameterized").isSome)

def read : List String → Except Usage Command
  | "search" :: words => readSearch words
  | "inspect" :: words => readInspect words
  | "catalog" :: words => readCatalog words
  | "help" :: words =>
    if words = [] ∨ words = ["help"] ∨ words = ["search"] ∨ words = ["inspect"] ∨ words = ["catalog"] then
      .error .help
    else .error .wrong
  | word :: _ => if word = "--help" ∨ word.startsWith "-h" then .error .help else .error .wrong
  | [] => .error .wrong

end PassTuner.CommandLine

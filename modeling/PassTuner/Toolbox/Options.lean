/-! Options on the command line of a tool: letters, alone or in clusters, and long names, which may
be cut short as long as they are clear. Some take a value. -/
namespace PassTuner.Toolbox

/-- Whether an option takes a value. -/
inductive Arity where
  | none
  | optional
  | required
  deriving DecidableEq, Repr

/-- An option that a tool knows. It is found under its key. -/
structure KnownOption where
  key : String
  letter : Option Char
  name : Option String
  arity : Arity
  deriving DecidableEq, Repr

/-- An option of one letter and a long name, found under its letter. -/
def knownAs (letter : Char) (name : String) (arity : Arity) : KnownOption :=
  ⟨String.singleton letter, some letter, some name, arity⟩

def knownLetter (letter : Char) (arity : Arity) : KnownOption :=
  ⟨String.singleton letter, some letter, Option.none, arity⟩

/-- An option of a long name alone, found under it. -/
def knownName (name : String) (arity : Arity) : KnownOption :=
  ⟨name, Option.none, some name, arity⟩

def aboutOptions : List KnownOption := [knownName "help" .none, knownName "version" .none]

/-- Options that were met, by key, with their values. -/
abbrev FoundOptions := List (String × Option String)

/-- The letters of a cluster. The last may take the rest of the word, or the next word, as its
value. Returns also what is left of the words. -/
def readCluster (known : List KnownOption) :
    List Char → List String → Except String (FoundOptions × List String)
  | [], rest => .ok ([], rest)
  | letter :: letters, rest =>
    match known.find? fun option => option.letter == some letter with
    | none => .error ("invalid option -- '" ++ String.singleton letter ++ "'")
    | some option =>
      match option.arity, letters, rest with
      | .none, _, _ => do
        let (others, rest) ← readCluster known letters rest
        .ok ((option.key, Option.none) :: others, rest)
      | .optional, [], _ => .ok ([(option.key, Option.none)], rest)
      | .required, [], [] => .error ("option requires an argument -- '" ++ String.singleton letter ++ "'")
      | .required, [], value :: rest => .ok ([(option.key, some value)], rest)
      | _, _ :: _, _ => .ok ([(option.key, some (String.ofList letters))], rest)

/-- The option that a long name means, whole or cut short. -/
def findLong (known : List KnownOption) (name : String) : Except String KnownOption :=
  let named := known.filter fun option => option.name.any fun own => own.startsWith name
  match known.find? fun option => option.name == some name with
  | some option => .ok option
  | none =>
    match named with
    | [] => .error ("unrecognized option '--" ++ name ++ "'")
    | [option] => .ok option
    | option :: others =>
      if others.all fun other => other.key == option.key then .ok option
      else .error ("option '--" ++ name ++ "' is ambiguous; possibilities:" ++
        String.join (named.map fun option => " '--" ++ option.name.getD "" ++ "'"))

/-- A long option, with its value behind an equals sign or in the next word. -/
def readLong (known : List KnownOption) (word : String) (rest : List String) :
    Except String (FoundOptions × List String) := do
  let text := word.toList.drop 2
  let name := String.ofList (text.takeWhile (· != '='))
  let attached := match text.dropWhile (· != '=') with
    | [] => Option.none
    | _ :: value => some (String.ofList value)
  let option ← match findLong known name with
    | .error _ => if attached.isSome then findLong known name |>.mapError fun _ =>
        "unrecognized option '" ++ word ++ "'" else findLong known name
    | .ok option => .ok option
  let own := option.name.getD ""
  match option.arity, attached, rest with
  | .none, some _, _ => .error ("option '--" ++ own ++ "' doesn't allow an argument")
  | .required, Option.none, [] => .error ("option '--" ++ own ++ "' requires an argument")
  | .required, Option.none, value :: rest => .ok ([(option.key, some value)], rest)
  | _, value, _ => .ok ([(option.key, value)], rest)

/-- Options and operands of a line of words. Operands may stand between options if `mixed`, and end
them otherwise. Nothing is read behind an option that asks for help or for the version. The words are
counted down by `fuel`. -/
def scanOptions (known : List KnownOption) (mixed : Bool) :
    Nat → List String → Except String (FoundOptions × List String)
  | 0, words => .ok ([], words)
  | _ + 1, [] => .ok ([], [])
  | fuel + 1, word :: rest =>
    if word = "--" then .ok ([], rest)
    else if word.startsWith "-" && word != "-" then do
      let (options, rest) ← if word.startsWith "--" then readLong known word rest
        else readCluster known (word.toList.drop 1) rest
      if options.any fun option => option.1 == "help" || option.1 == "version" then .ok (options, [])
      else
        let (others, operands) ← scanOptions known mixed fuel rest
        .ok (options ++ others, operands)
    else if mixed then do
      let (options, operands) ← scanOptions known mixed fuel rest
      .ok (options, word :: operands)
    else .ok ([], word :: rest)

/-- Options and operands of a line of words, or what is wrong with them. -/
def splitOptions (known : List KnownOption) (mixed : Bool) (words : List String) :
    Except String (FoundOptions × List String) :=
  scanOptions known mixed words.length words

def FoundOptions.has (options : FoundOptions) (key : String) : Bool :=
  options.any fun option => option.1 == key

/-- The values that an option was given, in order. -/
def FoundOptions.values (options : FoundOptions) (key : String) : List String :=
  options.filterMap fun option => if option.1 = key then option.2 else Option.none

def helpHint (tool : String) : String := "Try '" ++ tool ++ " --help' for more information."

end PassTuner.Toolbox

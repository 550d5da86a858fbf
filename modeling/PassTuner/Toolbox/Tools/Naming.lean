import PassTuner.Toolbox.Tools.Printing

/-! Parts of paths. -/
namespace PassTuner.Toolbox

/-- A path without slashes at its end. -/
def dropSlashes (path : List Char) : List Char := (path.reverse.dropWhile (· == '/')).reverse

def lastName (path : List Char) : List Char :=
  let bare := dropSlashes path
  if bare.isEmpty then path.take 1 else (bare.reverse.takeWhile (· != '/')).reverse

/-- A name without an ending, unless it is nothing else. -/
def dropEnding (ending name : List Char) : List Char :=
  if ending.isSuffixOf name ∧ name ≠ ending then name.take (name.length - ending.length) else name

def basename : Tool := fun s =>
  let known := [knownAs 'a' "multiple" .none, knownAs 's' "suffix" .required, knownAs 'z' "zero" .none,
    knownName "help" .none]
  match splitOptions known false s.words with
  | .error e => s.fail 1 (e ++ "\n" ++ helpHint s.name)
  | .ok (options, operands) =>
    let several := options.has "a" || options.has "s"
    let finish := if options.has "z" then [Char.ofNat 0] else ['\n']
    if options.has "help" then s.print (helpText "basename")
    else match operands with
      | [] => s.fail 1 ("missing operand\n" ++ helpHint s.name)
      | path :: rest =>
        if several then
          let ending := ((options.values "s").getLast?.getD "").toList
          s.print ((path :: rest).flatMap fun path => dropEnding ending (lastName path.toList) ++ finish)
        else match rest with
          | _ :: extra :: _ => s.fail 1 ("extra operand " ++ quoteName extra ++ "\n" ++ helpHint s.name)
          | rest => s.print (dropEnding (rest.headD "").toList (lastName path.toList) ++ finish)

/-- A path without its last name. -/
def leadingPath (path : List Char) : List Char :=
  let bare := dropSlashes path
  if bare.isEmpty then if path.isEmpty then ['.'] else ['/']
  else match bare.reverse.dropWhile (· != '/') with
    | [] => ['.']
    | lead => let lead := dropSlashes lead.reverse; if lead.isEmpty then ['/'] else lead

/-- Paths without their last names. -/
def dirname : Tool := fun s =>
  match splitOptions [knownAs 'z' "zero" .none, knownName "help" .none] true s.words with
  | .error e => s.fail 1 (e ++ "\n" ++ helpHint s.name)
  | .ok (options, operands) =>
    if options.has "help" then s.print (helpText "dirname")
    else if operands.isEmpty then s.fail 1 ("missing operand\n" ++ helpHint s.name)
    else s.print (operands.flatMap fun path =>
      leadingPath path.toList ++ if options.has "z" then [Char.ofNat 0] else ['\n'])

/-- The path that the environment gives the directory in which a tool is started, if it leads there
without names that lead back. -/
def Setting.directoryName? (s : Setting) : Option String := do
  let path ← s.environment.lookup "PWD"
  let names := path.splitOn "/"
  if path.startsWith "/" && !names.contains "." && !names.contains ".." &&
      (s.files.locate s.directory path).toOption == some s.directory then some path
  else none

/-- The directory that the tool is started in; by the name that the environment gives it, if that is
asked for last. -/
def pwd : Tool := fun s =>
  match splitOptions ([knownAs 'L' "logical" .none, knownAs 'P' "physical" .none] ++ aboutOptions) true s.words with
  | .error e => s.fail 1 (e ++ "\n" ++ helpHint s.name)
  | .ok (options, operands) =>
    match options.about? "pwd" with
    | some text => s.print text
    | none =>
      let isNamed := ((options.filter fun option => option.1 == "L" || option.1 == "P").getLast?.map Prod.fst) == some "L"
      let path := (if isNamed then s.directoryName? else none).getD ("/" ++ "/".intercalate s.directory)
      let warning := if operands.isEmpty then [] else [s.complaint "ignoring non-option arguments"]
      s.finish 0 (warning ++ [(.output, .ofText (path ++ "\n").toList)])

end PassTuner.Toolbox

import PassTuner.Toolbox.Shell.Arithmetic
import PassTuner.Toolbox.Shell.Pattern

/-! Expanding words.

A word becomes items, and items become fields: they are split where a separator stands in what was
expanded outside of quotes, and patterns are replaced by the paths that they match. -/
namespace PassTuner.Toolbox.Shell

open Text (Stream)

/-- What a word expands to. -/
inductive Item where
  /-- a character, whether it has lost its meaning in patterns, and whether it can separate fields -/
  | char (c : Char) (literal splits : Bool)
  | mark
  /-- between fields, whatever they hold -/
  | boundary
  /-- between fields, of which the empty are dropped -/
  | gap
  deriving DecidableEq, Repr

/-- For what a word is expanded. -/
structure Purpose where
  /-- several fields can come of it -/
  splits : Bool
  /-- a tilde at the start is the home directory -/
  tilde : Bool
  /-- so is one behind the first equals sign and behind colons -/
  assigns : Bool
  deriving DecidableEq, Repr

namespace Purpose

def fields : Purpose := ⟨true, true, false⟩

def assignment : Purpose := ⟨false, false, true⟩

def text : Purpose := ⟨false, true, false⟩

def document : Purpose := ⟨false, false, false⟩

end Purpose

/-- Where the lines of a script come from. -/
inductive ScriptSource where
  /-- a text at hand -/
  | text
  /-- a file or the input; lines are told when they are read, if that is asked for -/
  | lines
  deriving DecidableEq, Repr

/-- How commands and words are run that are within others, and what programs there are. -/
structure Machine where
  /-- run a command; `tested` if its failure is looked at, `last` if nothing follows -/
  run : (tested last : Bool) → Command → Run Unit
  /-- run the lines of a script -/
  runText : (tested : Bool) → ScriptSource → String → Run Unit
  /-- what the word of a parameter expands to, within quotes or not -/
  expand : Purpose → Bool → Word → Run (List Item)
  /-- what commands print -/
  outputOf : List Command → Run (List Char)
  tools : String → Option Tool

namespace Item

def ofText (isQuoted : Bool) (text : List Char) : List Item :=
  text.map fun c => .char c isQuoted (!isQuoted)

def text (items : List Item) : List Char :=
  items.filterMap fun item =>
    match item with
    | .char c _ _ => some c
    | _ => none

def parts : Item → Bool
  | .boundary | .gap => true
  | _ => false

def texts (items : List Item) : List (List Char) :=
  items.foldr (fun item texts =>
    if item.parts then [] :: texts
    else match texts with
      | first :: others => (text [item] ++ first) :: others
      | [] => [text [item]]) [[]]

/-- The pattern of items. A slash has no meaning to lose. -/
def pattern (items : List Item) : List Char :=
  items.flatMap fun item =>
    match item with
    | .char '/' _ _ => ['/']
    | .char c true _ => ['\\', c]
    | .char c false _ => [c]
    | _ => []

end Item

/-! ### Parameters -/

/-- The separator of a list of values that is not split. -/
def joiner : Run (List Char) := do
  match ← Run.named? "IFS" with
  | some ⟨some separators, _, _⟩ => return separators.toList.take 1
  | _ => return [' ']

/-- The arguments as items: apart, if they can be. -/
def argumentItems (purpose : Purpose) (isQuoted apart : Bool) : Run (Option (List Item)) := do
  let arguments := (← Run.shell).arguments.map String.toList
  if arguments.isEmpty then return none
  if purpose.splits && isQuoted && apart then
    return some ([.boundary].intercalate (arguments.map (Item.ofText true)))
  else if purpose.splits && !isQuoted then
    return some ([.gap].intercalate (arguments.map (Item.ofText false)))
  else return some (Item.ofText isQuoted ((← joiner).intercalate arguments))

/-- The options that are set, by letter. -/
def optionLetters : List Char := ['p', 'u', 'b', 'a', 'C', 'E', 'V', 'v', 'x', 's', 'n', 'm', 'i', 'I', 'f', 'e']

/-- The value of a parameter, as items; nothing, if it has none. -/
def parameterItems (purpose : Purpose) (isQuoted : Bool) (name : String) : Run (Option (List Item)) := do
  let s ← Run.shell
  let text (value : String) : Option (List Item) := some (Item.ofText isQuoted value.toList)
  match name with
  | "$" => return text (toString s.mainProcess)
  | "?" => return text (toString s.status)
  | "#" => return text (toString s.arguments.length)
  | "!" => return s.lastBackground.bind fun process => text (toString process)
  | "-" => return text (String.ofList (optionLetters.filter s.options.contains))
  | "@" => argumentItems purpose isQuoted true
  | "*" => argumentItems purpose isQuoted false
  | _ =>
    if name.toList.all Char.isDigit then
      match digitsIn 10 name.toList with
      | 0 => return text s.name
      | n + 1 => return s.arguments[n]?.bind text
    else return (← Run.valueOf? name).bind text

/-- Complain that a parameter has no value, for a reason if one is given. -/
def complainUnset {α : Type} (name : String) (reason : Option (List Char)) (orEmpty : Bool) : Run α :=
  Run.fail (name ++ ": " ++ match reason with
    | some text => String.ofList text
    | none => if orEmpty then "parameter not set or null" else "parameter not set")

/-- The items of a parameter with what is made of it. -/
def expandParameter (m : Machine) (purpose : Purpose) (isQuoted : Bool) (name : String)
    (treatment : Treatment) (orEmpty : Bool) (word : Word) : Run (List Item) := do
  if treatment = .unknown then Run.fail "Bad substitution"
  let items ← parameterItems { purpose with splits := purpose.splits && treatment != .length } isQuoted name
  let held := items.filter fun items => !(orEmpty && (Item.text items).isEmpty)
  let needed : Run (List Item) := do
    match items with
    | some items => return items
    | none =>
      if (← Run.hasOption 'u') && name != "@" && name != "*" then complainUnset name none false
      return []
  match treatment, held with
  | .fallback, none | .alternative, some _ => m.expand { purpose with tilde := true } isQuoted word
  | .fallback, some items => return items
  | .alternative, none => return []
  | .demand, none =>
    let reason ← m.expand Purpose.text false word
    complainUnset name (if word.isEmpty then none else some (Item.text reason)) orEmpty
  | .demand, some items => return items
  | .assign, none =>
    let value ← m.expand Purpose.text false word
    Run.assignNamed name (some (String.ofList (Item.text value)))
    return (← parameterItems purpose isQuoted name).getD []
  | .assign, some items => return items
  | .length, _ => return Item.ofText isQuoted (toString (Item.text (← needed)).length).toList
  | .trim atEnd longest, _ =>
    let value ← needed
    if items.isNone then return []
    let pattern ← m.expand Purpose.text false word
    let texts := trimmed atEnd longest (Item.pattern pattern) (Item.texts value)
    return (value.filter Item.parts).take 1 |>.intercalate (texts.map (Item.ofText isQuoted))
  | _, _ => needed

/-! ### Words -/

def homes : List (String × String) := [("root", "/root")]

/-- What a tilde and the name behind it stand for, and the parts that follow; nothing, if they stand
for themselves. -/
def homeOf? (assigns : Bool) (parts : Word) : Run (Option (List Char × Word)) := do
  let ends (part : Part) : Bool :=
    match part with
    | .char '/' => true
    | .char ':' => assigns
    | _ => false
  let (user, rest) := parts.span fun part => !ends part
  match plainText? user with
  | none => return none
  | some [] => return (← Run.valueOf? "HOME").map fun home => (home.toList, rest)
  | some user => return (homes.lookup (String.ofList user)).map fun home => (home.toList, rest)

/-- The items of the parts of a word. `quoted` holds within quotes, `outer` within quotes around the
word as a whole; `equals` until the first equals sign of an assignment. A word within a parameter
`splits` where it has no quotes. -/
def expandParts (m : Machine) (purpose : Purpose) (outer inParameter : Bool) :
    Nat → (quoted equals atTilde : Bool) → Word → Run (List Item)
  | 0, _, _, _, _ => return []
  | _ + 1, _, _, _, [] => return []
  | fuel + 1, quoted, equals, atTilde, part :: rest => do
    let go := expandParts m purpose outer inParameter fuel
    let isQuoted := outer || quoted
    let tilde? ← match part with
      | .char '~' => if atTilde && !quoted then homeOf? purpose.assigns rest else pure none
      | _ => pure none
    match tilde? with
    | some (home, rest) => return Item.ofText true home ++ (← go quoted equals false rest)
    | none =>
      match part, rest with
      | .mark, .parameter "@" .value false [] :: .mark :: rest =>
        if !quoted then
          let arguments ← argumentItems purpose true true
          let items := match arguments with
            | some items => if purpose.splits then .mark :: items else items
            | none => []
          return items ++ (← go quoted equals false rest)
        else return .mark :: (← go (!quoted) equals false (.parameter "@" .value false [] :: .mark :: rest))
      | .mark, _ => return .mark :: (← go (!quoted) equals false rest)
      | .char c, _ =>
        let opens := purpose.assigns && ((c == '=' && equals) || (c == ':' && !equals))
        let items ← go quoted (equals && c != '=') opens rest
        return .char c false (inParameter && purpose.splits && !isQuoted) :: items
      | .literal c, _ => return .char c true false :: (← go quoted equals false rest)
      | .parameter name treatment orEmpty word, _ =>
        let items ← expandParameter m purpose isQuoted name treatment orEmpty word
        return items ++ (← go quoted equals false rest)
      | .output commands, _ =>
        let text ← m.outputOf commands
        return Item.ofText isQuoted text ++ (← go quoted equals false rest)
      | .arithmetic expression, _ =>
        let items ← m.expand Purpose.document true expression
        let i ← Expression.evaluate ⟨String.ofList (Item.text items)⟩
        return Item.ofText isQuoted (toString i).toList ++ (← go quoted equals false rest)

def expandWord (m : Machine) (purpose : Purpose) (word : Word) : Run (List Item) :=
  expandParts m purpose false false (word.length + 1) false purpose.assigns purpose.tilde word

def expandInner (m : Machine) (purpose : Purpose) (outer : Bool) (word : Word) : Run (List Item) :=
  expandParts m purpose outer true (word.length + 1) false purpose.assigns purpose.tilde word

/-! ### Fields -/

/-- How far items are split into fields. Fields are in reverse order, as are the items of the one
that is read. -/
structure Splitting where
  fields : List (List Item)
  current : List Item
  /-- a field ends here even if it is empty -/
  due : Bool
  /-- a separator was read: blanks are skipped, and one other separator if none has come yet -/
  skipsBlanks : Bool
  skipsOther : Bool

namespace Splitting

def finish (s : Splitting) : Splitting :=
  { s with fields := s.current.reverse :: s.fields, current := [], due := false }

def take (separators : List Char) (s : Splitting) (item : Item) : Splitting :=
  let keep (s : Splitting) : Splitting :=
    { s with current := item :: s.current, skipsBlanks := false, skipsOther := false }
  let separate (s : Splitting) (isBlank : Bool) : Splitting :=
    if isBlank then
      if s.skipsBlanks || (s.current.isEmpty && !s.due) then { s with skipsBlanks := s.skipsBlanks }
      else { s.finish with skipsBlanks := true, skipsOther := true }
    else if s.skipsOther then { s with skipsOther := false }
    else { s.finish with skipsBlanks := true, skipsOther := false }
  match item with
  | .mark => keep s
  | .boundary => { s.finish with due := true, skipsBlanks := false, skipsOther := false }
  | .gap => separate s true
  | .char c _ splits =>
    if splits && separators.contains c then separate s (c == ' ' || c == '\t' || c == '\n')
    else keep s

end Splitting

def splitItems (separators : List Char) (items : List Item) : List (List Item) :=
  let s := items.foldl (Splitting.take separators) ⟨[], [], false, false, false⟩
  let s := if s.current.isEmpty && !s.due then s else s.finish
  s.fields.reverse

def separators : Run (List Char) := do
  return ((← Run.valueOf? "IFS").getD " \t\n").toList

def expandFields (m : Machine) (word : Word) : Run (List String) := do
  let items ← expandWord m Purpose.fields word
  let fields := splitItems (← separators) items
  let noPaths ← Run.hasOption 'f'
  let s ← get
  return fields.flatMap fun field =>
    let paths := if noPaths then [] else matchPaths s.world.files s.shell.directory (Item.pattern field)
    if paths.isEmpty then [String.ofList (Item.text field)] else paths

def expandText (m : Machine) (purpose : Purpose) (word : Word) : Run String := do
  return String.ofList (Item.text (← expandWord m purpose word))

def expandPattern (m : Machine) (word : Word) : Run (List Char) := do
  return Item.pattern (← expandWord m Purpose.text word)

def expandDocument (m : Machine) (word : Word) : Run (List Char) := do
  return Item.text (← expandParts m Purpose.document true false (word.length + 1) false false false word)

end PassTuner.Toolbox.Shell

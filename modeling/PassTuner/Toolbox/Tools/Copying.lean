import PassTuner.Toolbox.Tools.Printing

/-! Tools that hand on what they read, whole or in part. -/
namespace PassTuner.Toolbox

open Text (Stream)

/-- The lines of a text with their ends; what follows the last line feed is one, if not empty. -/
def linesOf : List Char → List Char → List (List Char)
  | current, [] => if current.isEmpty then [] else [current.reverse]
  | current, '\n' :: rest => ('\n' :: current).reverse :: linesOf [] rest
  | current, c :: rest => linesOf (c :: current) rest

/-- A line without the byte that it ends with. -/
def dropMark (mark : Char) (line : List Char) : List Char :=
  if line.getLast? = some mark then line.dropLast else line

/-- A line without its end. -/
def dropEnd (line : List Char) : List Char := dropMark '\n' line

def aligned (width n : Nat) : List Char :=
  let digits := (toString n).toList
  List.replicate (width - digits.length) ' ' ++ digits

/-- How `cat` shows what it hands on. -/
structure Showing where
  numbers : Bool
  numbersFilled : Bool
  squeezes : Bool
  ends : Bool
  tabs : Bool
  invisible : Bool
  deriving DecidableEq, Repr

namespace Showing

/-- A byte, shown by visible characters if asked for. -/
def byte (v : Showing) (c : Char) : List Char :=
  let ascii (n : Nat) : List Char :=
    if n < 32 then ['^', Char.ofNat (n + 64)] else if n = 127 then ['^', '?'] else [Char.ofNat n]
  if c = '\t' then if v.tabs then ['^', 'I'] else [c]
  else if !v.invisible || c == '\n' then [c]
  else if c.toNat < 128 then ascii c.toNat
  else 'M' :: '-' :: ascii (c.toNat - 128)

/-- A line without its end. -/
def body (v : Showing) (line : List Char) : List Char := line.flatMap v.byte

/-- Lines with their ends, numbered from `n` on. -/
def lines (v : Showing) : Nat → Bool → List (List Char) → List Char
  | _, _, [] => []
  | n, afterEmpty, line :: rest =>
    let isEmpty := line == ['\n']
    if v.squeezes && isEmpty && afterEmpty then v.lines n true rest
    else
      let numbered := (v.numbersFilled && !isEmpty) || (v.numbers && !v.numbersFilled)
      (if numbered then aligned 6 n ++ ['\t'] else []) ++ v.body (dropEnd line) ++
        (if line.getLast? = some '\n' then (if v.ends then ['$', '\n'] else ['\n']) else []) ++
        v.lines (if numbered then n + 1 else n) isEmpty rest

end Showing

def catOptions : List KnownOption :=
  [knownAs 'A' "show-all" .none, knownAs 'b' "number-nonblank" .none, knownLetter 'e' .none,
   knownAs 'E' "show-ends" .none, knownAs 'n' "number" .none, knownAs 's' "squeeze-blank" .none,
   knownLetter 't' .none, knownAs 'T' "show-tabs" .none, knownLetter 'u' .none,
   knownAs 'v' "show-nonprinting" .none] ++ aboutOptions

def Setting.unreadable (s : Setting) (name : String) (e : FileError) : Outlet × Stream :=
  s.complaint (quoteFile name ++ ": " ++ e.message)

/-- What options of `cat` ask to be shown. -/
def Showing.ofOptions (options : FoundOptions) : Showing where
  numbers := options.has "n"
  numbersFilled := options.has "b"
  squeezes := options.has "s"
  ends := ["A", "e", "E"].any options.has
  tabs := ["A", "t", "T"].any options.has
  invisible := ["A", "e", "t", "v"].any options.has

/-- Hand on what operands hold, as it is or shown in some way. -/
def handOn (s : Setting) (showing : Showing) (operands : List String) : Result :=
  let opened := s.openAll operands
  let plain := showing = ⟨false, false, false, false, false, false⟩
  let printed := opened.map fun (name, held) =>
    match held with
    | .error e => s.unreadable name e
    | .ok stream => (.output, stream)
  let text := (opened.filterMap fun (_, held) => held.toOption.map Stream.text).flatten
  let printed := if plain then printed
    else printed.filter (fun chunk => chunk.1 == .errors) ++
      [(.output, .ofText (showing.lines 1 false (linesOf [] text)))]
  let status := if opened.all fun (_, held) => held.isOk then 0 else 1
  let endless := anyEndless opened
  { s.finish status (printed ++ s.closing operands "closing standard input") with
    left := s.leftBy operands
    milliseconds := if endless then none else some 0 }

/-- Hand on the input or files, one after another. -/
def cat : Tool := fun s =>
  match splitOptions catOptions true s.words with
  | .error e => s.fail 1 (e ++ "\n" ++ helpHint s.name)
  | .ok (options, operands) =>
    match options.about? "cat" with
    | some text => s.print text
    | none =>
      if s.outputClosed then s.fail 1 ("standard output: " ++ FileError.badDescriptor.message)
      else handOn s (.ofOptions options) (if operands.isEmpty then ["-"] else operands)

/-- How much is asked for: of bytes or lines; from the start or the end; taken or left off. -/
structure Portion where
  inBytes : Bool
  signed : Bool
  count : Nat
  deriving DecidableEq, Repr

/-- The portion of an option's value; the sign that turns its meaning around is given. -/
def portion? (inBytes : Bool) (sign : Char) (value : List Char) : Except String Portion :=
  let signed := value.head? == some sign
  let count := if value.head? = some '-' then value.drop 1 else value
  match count? count with
  | .ok n => .ok ⟨inBytes, signed, n⟩
  | .error e =>
    .error ("invalid number of " ++ (if inBytes then "bytes" else "lines") ++ ": " ++
      quoteName (String.ofList count) ++ e.message)

/-- The portion that options ask for: the one given, if they do not. -/
def chosenPortion (tool : String) (sign : Char) : FoundOptions → Portion → Except String Portion
  | [], portion => .ok portion
  | (key, value) :: rest, portion => do
    if key = "c" ∨ key = "n" then
      chosenPortion tool sign rest (← portion? (key == "c") sign (value.getD "").toList)
    else if key.all Char.isDigit then
      if tool = "tail" then .error ("option used in invalid context -- " ++ key)
      else .error ("invalid trailing option -- " ++ key ++ "\n" ++ helpHint tool)
    else chosenPortion tool sign rest portion

/-- A first word that is a count behind a dash and letters behind it, as options. -/
def spellOutHead (words : List String) : List String :=
  match words.map String.toList with
  | ('-' :: rest) :: _ =>
    match spanDigits 10 rest with
    | ([], _) => words
    | (digits, letters) =>
      let isUnit (c : Char) : Bool := ['b', 'k', 'm'].contains c
      let value := String.ofList (digits ++ letters.filter isUnit)
      let flags := letters.filter fun c => !(['c', 'l', 'b', 'k', 'm'].contains c)
      let inBytes := letters.any fun c => c == 'c' || isUnit c
      (if inBytes then "-c" else "-n") :: value ::
        ((if flags.isEmpty then [] else [String.ofList ('-' :: flags)]) ++ words.drop 1)
  | _ => words

/-- A first word that is a count behind a sign, with a letter for what is counted, as an option. At
most one operand may follow. -/
def spellOutTail (words : List String) : List String :=
  let alone := match words.drop 1 with
    | [] => true
    | [operand] => !(operand.startsWith "-" && operand != "-") || operand == "--"
    | [mark, _] => mark == "--"
    | _ => false
  match words.map String.toList with
  | (sign :: rest) :: _ =>
    let (digits, letters) := spanDigits 10 rest
    if !alone || !(sign == '+' || (sign == '-' && !rest.isEmpty && rest != ['c'])) then words
    else
      let value := (if sign = '+' then ['+'] else []) ++ if digits.isEmpty then ['1', '0'] else digits
      let follows := letters.getLast? == some 'f'
      let spelt (option unit : String) : List String :=
        (if follows then ["-f"] else []) ++ option :: (String.ofList value ++ unit) :: words.drop 1
      match String.ofList (if follows then letters.dropLast else letters) with
      | "" | "l" => spelt "-n" ""
      | "c" => spelt "-c" ""
      | "b" => spelt "-c" "b"
      | _ => words
  | _ => words

def portionOptions (tool : String) : List KnownOption :=
  [knownAs 'c' "bytes" .required, knownAs 'n' "lines" .required, knownAs 'q' "quiet" .none,
   ⟨"q", none, some "silent", .none⟩, knownAs 'v' "verbose" .none,
   knownAs 'z' "zero-terminated" .none, knownName "help" .none] ++
    ("0123456789".toList.map fun digit => knownLetter digit .none) ++
    if tool = "tail" then
      [knownAs 'f' "follow" .optional, knownLetter 'F' .none, knownAs 's' "sleep-interval" .required,
       knownName "pid" .required, knownName "retry" .none, knownName "max-unchanged-stats" .required]
    else []

/-- Lines that end with a byte, which is not part of the text otherwise. -/
def linesEndingIn (mark : Char) (text : List Char) : List (List Char) :=
  if mark = '\n' then linesOf [] text
  else
    let swap (c : Char) : Char := if c = mark then '\n' else if c = '\n' then mark else c
    (linesOf [] (text.map swap)).map fun line => line.map swap

/-- The beginning of a stream, which may be endless. -/
def Portion.head (p : Portion) (mark : Char) (stream : Stream) : List Char :=
  let text := stream.unrolled p.count
  if p.inBytes then text.take (if p.signed then text.length - p.count else p.count)
  else
    let lines := linesEndingIn mark text
    (lines.take (if p.signed then lines.length - p.count else p.count)).flatten

def Portion.tail (p : Portion) (mark : Char) (stream : Stream) : List Char :=
  if p.inBytes then stream.text.drop (if p.signed then p.count - 1 else stream.text.length - p.count)
  else
    let lines := linesEndingIn mark stream.text
    (lines.drop (if p.signed then p.count - 1 else lines.length - p.count)).flatten

/-- Print a portion of operands, with their names between them if asked for. -/
def printPortions (s : Setting) (part : Stream → List Char) (nothing titled : Bool) (operands : List String) :
    List (Outlet × Stream) :=
  ((s.openAll operands).zipIdx).flatMap fun ((name, held), i) =>
    let name := if name = "-" then "standard input" else name
    let title := (if 0 < i then "\n==> " else "==> ") ++ name ++ " <==\n"
    let titles : List (Outlet × Stream) := if titled then [(.output, .ofText title.toList)] else []
    match held with
    | .error e =>
      if e.arisesReading then
        if nothing then titles
        else titles ++ [s.complaint ("error reading " ++ quoteForShell name ++ ": " ++ e.message)]
      else [s.complaint ("cannot open " ++ quoteForShell name ++ " for reading: " ++ e.message)]
    | .ok stream => titles ++ [(.output, .ofText (part stream))]

def printPortion (tool : String) (sign : Char) (part : Portion → Char → Stream → List Char) : Tool := fun s =>
  let isTail := tool == "tail"
  let words := if isTail then spellOutTail s.words else spellOutHead s.words
  let result := do
    let (options, operands) ← (splitOptions (portionOptions tool) true words).mapError
      fun e => e ++ "\n" ++ helpHint s.name
    let portion ← chosenPortion s.name sign options ⟨false, false, 10⟩
    .ok (options, operands, portion)
  match result with
  | .error e => s.fail 1 e
  | .ok (options, operands, portion) =>
    let nothing := portion.count == 0 && !portion.signed
    if options.has "help" then s.print (helpText tool)
    else if nothing && isTail then s.finish 0 []
    else
      let operands := if operands.isEmpty then ["-"] else operands
      let titling := ((options.map Prod.fst).filter fun key => key == "q" || key == "v").getLast?
      let titled := titling == some "v" || (1 < operands.length && titling.isNone)
      let opened := s.openAll operands
      let part := part portion (if options.has "z" then Char.ofNat 0 else '\n')
      let failed := opened.any fun (_, held) =>
        match held with
        | .error e => !(nothing && e.arisesReading)
        | .ok _ => false
      let closing := s.closing operands "-"
      let follows := isTail && (options.has "f" || options.has "F") && operands.any (!Setting.isInput ·)
      let endless := isTail && anyEndless opened
      let left : Stream :=
        if operands.any Setting.isInput && !isTail && (s.inputSize.isSome || (portion.inBytes && !portion.signed)) then
          .ofText (s.input.text.drop (part s.input).length)
        else s.leftBy operands
      { s.finish (if failed || !closing.isEmpty then 1 else 0)
          (printPortions s part nothing titled operands ++ closing) with
        left := left
        milliseconds := if endless || follows then none else some 0 }

def head : Tool := printPortion "head" '-' Portion.head

def tail : Tool := printPortion "tail" '+' Portion.tail

/-- Hand on the input, and write it to files. -/
def tee : Tool := fun s =>
  match splitOptions [knownAs 'a' "append" .none, knownAs 'i' "ignore-interrupts" .none] true s.words with
  | .error e => s.fail 1 (e ++ "\n" ++ helpHint s.name)
  | .ok (options, operands) =>
    s.onText s.input fun text =>
      let failures := (s.inputError.toList.map fun e => s.complaint ("read error: " ++ e.message)) ++
        s.closing ["-"] "standard input"
      let start : Result := s.finish (if failures.isEmpty then 0 else 1) ((.output, .ofText text) :: failures)
      (operands.foldl (fun (r : Result) name =>
        let before := if options.has "a" then ((r.files.read s.directory name).toOption.map Stream.text).getD []
          else []
        match r.files.write s.directory name (before ++ text) with
        | .ok files => { r with files }
        | .error e => { r with
            ending := .exited 1
            printed := r.printed ++ [s.unreadable name e] }) start).reading

end PassTuner.Toolbox

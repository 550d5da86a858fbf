import PassTuner.Toolbox.Tools.Columns

/-! Bringing lines into order. -/
namespace PassTuner.Toolbox

open Text (Stream)

/-- How parts of lines are compared. -/
structure Comparing where
  numbers : Bool
  folds : Bool
  reversed : Bool
  skipsBlanks : Bool
  /-- only letters, digits and blanks count -/
  words : Bool
  deriving DecidableEq, Repr

/-- A part of lines that they are sorted by: the field and byte that it begins with, and where it
ends. -/
structure SortKey where
  firstField : Nat
  firstByte : Nat
  lastField : Option Nat
  lastByte : Nat
  comparing : Comparing
  skipsLastBlanks : Bool
  deriving DecidableEq, Repr

def isBlankByte (c : Char) : Bool := c == ' ' || c == '\t'

/-- A decimal number at the start of a text, in units of so many places; zero, if there is none. -/
def numberAtStart (text : List Char) : Int × Nat :=
  let text := text.dropWhile isBlankByte
  let (negative, body) := match text with
    | '-' :: rest => (true, rest)
    | rest => (false, rest)
  let (whole, rest) := spanDigits 10 body
  let fraction := match rest with
    | '.' :: rest => (spanDigits 10 rest).1
    | _ => []
  let n : Int := digitsIn 10 (whole ++ fraction)
  (if negative then -n else n, fraction.length)

namespace Comparing

def order (c : Comparing) (a b : List Char) : Ordering :=
  let prepare (text : List Char) : List Char :=
    let text := if c.skipsBlanks then text.dropWhile isBlankByte else text
    let text := if c.words then text.filter fun c => c.isAlphanum || isBlankByte c else text
    if c.folds then text.map Char.toUpper else text
  let result := if c.numbers then
      let (m, p) := numberAtStart a
      let (n, q) := numberAtStart b
      compare (m * (Nat.pow 10 q : Nat)) (n * (Nat.pow 10 p : Nat))
    else compare (prepare a) (prepare b)
  if c.reversed then result.swap else result

def ofLetters (letters : List Char) : Comparing :=
  ⟨letters.contains 'n', letters.contains 'f', letters.contains 'r', letters.contains 'b', letters.contains 'd'⟩

end Comparing

/-- How far a line reaches from its start to the end of so many fields. -/
def behindFields (separator : Option Char) : Nat → List Char → Nat
  | 0, _ => 0
  | n + 1, line =>
    let size := match separator with
      | some c => (line.takeWhile (· != c)).length + 1
      | none =>
        let blanks := (line.takeWhile isBlankByte).length
        blanks + ((line.drop blanks).takeWhile fun c => !isBlankByte c).length
    if line.length ≤ size then min size line.length
    else size + behindFields separator n (line.drop size)

def SortKey.part (k : SortKey) (separator : Option Char) (line : List Char) : List Char :=
  let skip (place : Nat) : Nat := place + ((line.drop place).takeWhile isBlankByte).length
  let start := behindFields separator (k.firstField - 1) line
  let start := (if k.comparing.skipsBlanks then skip start else start) + (k.firstByte - 1)
  let finish := match k.lastField with
    | none => line.length
    | some field =>
      if k.lastByte = 0 then
        let place := behindFields separator field line
        if separator.isSome && place < line.length then place - 1
        else if separator.isSome && line.getLast? = separator && place = line.length then
          if (line.filter fun c => some c = separator).length = field then place - 1 else place
        else place
      else
        let place := behindFields separator (field - 1) line
        (if k.skipsLastBlanks then skip place else place) + k.lastByte
  (line.take finish).drop start

/-- A number and what follows it, or a complaint that it is not where it must be. -/
def leadingCount (place : String) (text : List Char) : Except String (Nat × List Char) :=
  match spanDigits 10 text with
  | ([], rest) =>
    .error ("invalid number " ++ place ++ ": invalid count at start of " ++ quoteName (String.ofList rest))
  | (digits, rest) => .ok (digitsIn 10 digits, rest)

/-- The letters that can stand behind a place in a key. -/
def keyLetters : List Char := ['b', 'd', 'f', 'n', 'r']

/-- A key as it is written. Letters of its own take the place of those for all keys. -/
def readSortKey (common : List Char) (written : String) : Except String SortKey := do
  let wrong (text : String) : Except String Unit :=
    .error (text ++ ": invalid field specification " ++ quoteName written)
  let (firstField, rest) ← leadingCount "at field start" written.toList
  if firstField = 0 then wrong "field number is zero"
  let (firstByte, rest) ← match rest with
    | '.' :: rest => leadingCount "after '.'" rest
    | rest => pure (1, rest)
  if firstByte = 0 then wrong "character offset is zero"
  let (letters, rest) := rest.span keyLetters.contains
  let (lastField, lastByte, lastLetters, rest) ← match rest with
    | ',' :: rest => do
      let (field, rest) ← leadingCount "after ','" rest
      if field = 0 then wrong "field number is zero"
      let (byte, rest) ← match rest with
        | '.' :: rest => leadingCount "after '.'" rest
        | rest => pure (0, rest)
      let (letters, rest) := rest.span keyLetters.contains
      pure (some field, byte, letters, rest)
    | rest => pure (none, 0, [], rest)
  if !rest.isEmpty then wrong "stray character in field spec"
  let own := letters ++ lastLetters
  let used := if own.isEmpty then common else own
  let skips (letters : List Char) : Bool := (if own.isEmpty then common else letters).contains 'b'
  return ⟨firstField, firstByte, lastField, lastByte,
    { Comparing.ofLetters used with skipsBlanks := skips letters }, skips lastLetters⟩

def sortOptions : List KnownOption :=
  [knownAs 'n' "numeric-sort" .none, knownAs 'r' "reverse" .none, knownAs 'u' "unique" .none,
   knownAs 'f' "ignore-case" .none, knownAs 'b' "ignore-leading-blanks" .none,
   knownAs 'd' "dictionary-order" .none, knownAs 's' "stable" .none, knownAs 'c' "check" .none,
   knownLetter 'C' .none, knownAs 'z' "zero-terminated" .none,
   knownAs 'k' "key" .required, knownAs 't' "field-separator" .required, knownAs 'o' "output" .required,
   knownName "help" .none]

/-- The order in which options bring lines: by the keys alone, and by the whole lines if those are
equal. -/
def lineOrders (options : FoundOptions) (keys : List SortKey) (separator : Option Char) :
    (List Char → List Char → Ordering) × (List Char → List Char → Ordering) :=
  let common := (["n", "f", "r", "b", "d"].filter options.has).flatMap String.toList
  let byKeys (a b : List Char) : Ordering :=
    if keys.isEmpty then (Comparing.ofLetters common).order a b
    else keys.foldl (fun result key =>
      result.then (key.comparing.order (key.part separator a) (key.part separator b))) .eq
  let whole (a b : List Char) : Ordering :=
    let last := if options.has "s" || options.has "u" then .eq else compare a b
    (byKeys a b).then (if options.has "r" then last.swap else last)
  (byKeys, whole)

def dropRepeated (order : List Char → List Char → Ordering) : List (List Char) → List (List Char)
  | a :: b :: rest =>
    if order a b = .eq then dropRepeated order (a :: rest) else a :: dropRepeated order (b :: rest)
  | rest => rest
termination_by lines => lines.length

/-- The first line that is out of order, with its number. -/
def disorder? (order : List Char → List Char → Ordering) (strict : Bool) :
    Nat → List (List Char) → Option (Nat × List Char)
  | number, a :: b :: rest =>
    if order a b = .gt || (strict && order a b == .eq) then some (number + 1, b)
    else disorder? order strict (number + 1) (b :: rest)
  | _, _ => none

/-- What options ask for: the separator of fields and the keys. -/
def readSorting (options : FoundOptions) : Except String (Option Char × List SortKey) := do
  let common := keyLetters.filter fun letter => options.has (String.singleton letter)
  let keys ← (options.values "k").mapM (readSortKey common)
  match ((options.values "t").getLast?.map String.toList) with
  | none => return (none, keys)
  | some [] => throw "empty tab"
  | some [c] => return (some c, keys)
  | some ['\\', '0'] => return (some (Char.ofNat 0), keys)
  | some text => throw ("multi-character tab " ++ quoteName (String.ofList text))

def sort : Tool := fun s =>
  match splitOptions sortOptions true s.words with
  | .error e => s.fail 2 (e ++ "\n" ++ helpHint s.name)
  | .ok (options, operands) =>
    if options.has "help" then s.print (helpText "sort")
    else match readSorting options with
      | .error e => s.fail 2 e
      | .ok (separator, keys) =>
        let (byKeys, whole) := lineOrders options keys separator
        let mark := if options.has "z" then Char.ofNat 0 else '\n'
        let operands := if operands.isEmpty then ["-"] else operands
        let opened := s.openAll operands
        match opened.find? fun (_, held) => !held.isOk with
        | some (name, .error e) =>
          s.fail 2 ((if e.arisesReading then "read failed: " else "cannot read: ") ++ quoteFile name ++ ": " ++ e.message)
        | _ =>
          let texts := opened.filterMap fun (_, held) => held.toOption.map Stream.text
          let lines := texts.flatMap fun text => (linesEndingIn mark text).map (dropMark mark)
          let rest : Result → Result := fun r => { r with
            left := s.leftBy operands
            milliseconds := if anyEndless opened then none else some 0 }
          if options.has "c" || options.has "C" then
            match disorder? (if options.has "u" then byKeys else whole) (options.has "u") 1 lines with
            | some (number, line) => rest (if options.has "C" then s.finish 1 [] else
                s.fail 1 (operands.headD "-" ++ ":" ++ toString number ++ ": disorder: " ++ String.ofList line))
            | none => rest (s.finish 0 [])
          else
            let sorted := lines.mergeSort fun a b => whole a b != .gt
            let kept := if options.has "u" then dropRepeated byKeys sorted else sorted
            let text := kept.flatMap fun line => line ++ [mark]
            match (options.values "o").getLast? with
            | none => rest (s.finish 0 [(.output, .ofText text)])
            | some path =>
              match s.files.write s.directory path text with
              | .ok files => { rest (s.finish 0 []) with files }
              | .error e => rest (s.fail 2 ("open failed: " ++ quoteFile path ++ ": " ++ e.message))

/-! ### Lines that repeat -/

def uniqOptions : List KnownOption :=
  [knownAs 'c' "count" .none, knownAs 'd' "repeated" .none, knownAs 'u' "unique" .none,
   knownAs 'i' "ignore-case" .none, knownAs 'f' "skip-fields" .required, knownAs 's' "skip-chars" .required,
   knownAs 'w' "check-chars" .required, knownAs 'z' "zero-terminated" .none, knownName "help" .none]

/-- Lines with the number of times that they come one after another. -/
def countRepeated (key : List Char → List Char) : List (List Char) → List (Nat × List Char)
  | [] => []
  | line :: rest =>
    match countRepeated key rest with
    | (n, next) :: others =>
      if key line = key next then (n + 1, line) :: others else (1, line) :: (n, next) :: others
    | [] => [(1, line)]

/-- What is left of a line behind so many fields, each with the blanks in front of it. -/
def dropFields : Nat → List Char → List Char
  | 0, line => line
  | n + 1, line => dropFields n ((line.dropWhile isBlankByte).dropWhile fun c => !isBlankByte c)

def readRepeating (options : FoundOptions) : Except String (List Char → List Char) := do
  let count (option meaning : String) : Except String (Option Nat) :=
    match (options.values option).getLast? with
    | none => .ok none
    | some text =>
      if text.isEmpty || !text.toList.all Char.isDigit then
        .error (text ++ ": invalid number of " ++ meaning)
      else .ok (some (digitsIn 10 text.toList))
  let fields ← count "f" "fields to skip"
  let skipped ← count "s" "bytes to skip"
  let compared ← count "w" "bytes to compare"
  let mark := if options.has "z" then Char.ofNat 0 else '\n'
  let key (line : List Char) : List Char :=
    let part := (dropFields (fields.getD 0) line).drop (skipped.getD 0)
    let part := part.take (compared.getD part.length)
    if options.has "i" then part.map Char.toLower else part
  let print (text : List Char) : List Char :=
    let lines := (linesEndingIn mark text).map (dropMark mark)
    let shown := (countRepeated key lines).filter fun (n, _) =>
      (!options.has "d" || decide (1 < n)) && (!options.has "u" || n == 1)
    shown.flatMap fun (n, line) => (if options.has "c" then aligned 7 n ++ [' '] else []) ++ line ++ [mark]
  return print

/-- Print lines that repeat the one before once. -/
def uniq : Tool := fun s =>
  match splitOptions uniqOptions true s.words with
  | .error e => s.fail 1 (e ++ "\n" ++ helpHint s.name)
  | .ok (options, operands) =>
    if options.has "help" then s.print (helpText "uniq")
    else match readRepeating options, operands with
      | .error e, _ => s.fail 1 e
      | .ok _, _ :: _ :: extra :: _ =>
        s.fail 1 ("extra operand " ++ quoteName extra ++ "\n" ++ helpHint s.name)
      | .ok print, [input, output] =>
        match s.open? input with
        | .error e => s.fail 1 (quoteFile input ++ ": " ++ e.message)
        | .ok stream =>
          match s.files.write s.directory output (print stream.text) with
          | .ok files => { s.finish 0 [] with files, left := s.leftBy [input] }
          | .error e => s.fail 1 (quoteFile output ++ ": " ++ e.message)
      | .ok print, operands => s.onOperands s.unreadable operands print

/-- Print the lines of each operand, the last first. -/
def tac : Tool := fun s =>
  match splitOptions [knownName "help" .none] true s.words with
  | .error e => s.fail 1 (e ++ "\n" ++ helpHint s.name)
  | .ok (options, operands) =>
    let unreadable (name : String) (e : FileError) : Outlet × Stream :=
      s.complaint (if e.arisesReading then quoteFile name ++ ": read error: " ++ "Invalid argument"
        else "failed to open " ++ quoteForShell name ++ " for reading: " ++ e.message)
    if options.has "help" then s.print (helpText "tac")
    else s.onOperands unreadable operands fun text => (linesOf [] text).reverse.flatten

end PassTuner.Toolbox

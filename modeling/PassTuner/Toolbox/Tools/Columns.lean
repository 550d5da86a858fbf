import PassTuner.Toolbox.Tools.Copying

/-! Selecting parts of lines by their places. -/
namespace PassTuner.Toolbox

open Text (Stream)

/-- Places from one to another, or to the end; the first is one. -/
structure PlaceRange where
  first : Nat
  last : Option Nat
  deriving DecidableEq, Repr

def PlaceRange.holds (r : PlaceRange) (place : Nat) : Bool :=
  decide (r.first ≤ place) && r.last.all fun last => decide (place ≤ last)

/-- The words between separators, none of which stands in a word. -/
def splitAt (isSeparator : Char → Bool) (text : List Char) : List (List Char) :=
  text.foldr (fun c words =>
    match words with
    | word :: rest => if isSeparator c then [] :: words else (c :: word) :: rest
    | [] => [[c]]) [[]]

/-- A range as it is written: a place, or two with a dash between them of which one can be left
off. -/
def readPlaceRange (inFields : Bool) (text : List Char) : Except String PlaceRange :=
  let zero : Except String PlaceRange :=
    .error (if inFields then "fields are numbered from 1" else "byte/character positions are numbered from 1")
  let big? := ((splitAt (· == '-') text).filter fun digits => decide (Nat.pow 2 64 - 1 ≤ digitsIn 10 digits)).head?
  match text.dropWhile fun c => c.isDigit || c == '-', big? with
  | c :: rest, _ => .error ((if inFields then "invalid field value " else "invalid byte or character position ") ++
      quoteName (String.ofList (c :: rest)))
  | [], some digits => .error ((if inFields then "field number " else "byte/character offset ") ++
      quoteName (String.ofList digits) ++ " is too large")
  | [], none =>
    match splitAt (· == '-') text with
    | [digits] =>
      if digits.isEmpty || digitsIn 10 digits = 0 then zero
      else .ok ⟨digitsIn 10 digits, some (digitsIn 10 digits)⟩
    | [first, last] =>
      if first.isEmpty && last.isEmpty then .error "invalid range with no endpoint: -"
      else if !first.isEmpty && digitsIn 10 first = 0 then zero
      else if !last.isEmpty && digitsIn 10 last < digitsIn 10 first then .error "invalid decreasing range"
      else .ok ⟨if first.isEmpty then 1 else digitsIn 10 first,
        if last.isEmpty then none else some (digitsIn 10 last)⟩
    | _ => .error (if inFields then "invalid field range" else "invalid byte or character range")

/-- What is selected of lines. -/
structure Selection where
  ranges : List PlaceRange
  complement : Bool
  /-- where fields end, unless bytes are selected -/
  delimiter : Option Char
  /-- what is printed between the parts, if given -/
  between : Option (List Char)
  /-- where lines end -/
  mark : Char
  /-- lines without fields are left off -/
  onlyDelimited : Bool

namespace Selection

def holds (s : Selection) (place : Nat) : Bool :=
  (s.ranges.any fun range => range.holds place) != s.complement

/-- Whether a range begins in a place, behind one that ends before it. -/
def beginsAt (s : Selection) (place : Nat) : Bool :=
  s.holds place && (!s.holds (place - 1) ||
    (!s.complement && (s.ranges.any fun range => range.first == place) &&
      !s.ranges.any fun range => decide (range.first < place) && range.holds place))

def bytes (s : Selection) (line : List Char) : List Char :=
  let chosen := (line.zipIdx 1).filter fun (_, place) => s.holds place
  match s.between, chosen with
  | some between, (c, _) :: rest =>
    c :: rest.flatMap fun (c, place) => if s.beginsAt place then between ++ [c] else [c]
  | _, chosen => chosen.map Prod.fst

def line (s : Selection) (line : List Char) : List Char :=
  match s.delimiter with
  | none => s.bytes line ++ [s.mark]
  | some delimiter =>
    if !line.contains delimiter then if s.onlyDelimited then [] else line ++ [s.mark]
    else
      let fields := (splitAt (· == delimiter) line).zipIdx 1
      let chosen := (fields.filter fun (_, place) => s.holds place).map Prod.fst
      (s.between.getD [delimiter]).intercalate chosen ++ [s.mark]

end Selection

def cutOptions : List KnownOption :=
  [knownAs 'b' "bytes" .required, knownAs 'c' "characters" .required, knownAs 'f' "fields" .required,
   knownAs 'd' "delimiter" .required, knownAs 's' "only-delimited" .none, knownLetter 'n' .none,
   knownAs 'z' "zero-terminated" .none,
   knownName "complement" .none, knownName "output-delimiter" .required, knownName "help" .none]

def readSelection (options : FoundOptions) : Except String Selection := do
  let lists := options.filter fun option => ["b", "c", "f"].contains option.1
  match lists with
  | [] => throw "you must specify a list of bytes, characters, or fields"
  | (key, list) :: rest =>
    if !rest.isEmpty then throw "only one list may be specified"
    let inFields := key == "f"
    let ranges ← (splitAt (fun c => c == ',' || c == ' ') (list.getD "").toList).mapM (readPlaceRange inFields)
    let delimiter := ((options.values "d").getLast?.getD "\t").toList
    if 1 < delimiter.length then throw "the delimiter must be a single character"
    if !inFields && options.has "d" then throw "an input delimiter may be specified only when operating on fields"
    if !inFields && options.has "s" then
      throw "suppressing non-delimited lines makes sense\n\tonly when operating on fields"
    return {
      ranges
      complement := options.has "complement"
      delimiter := if inFields then some (delimiter.headD (Char.ofNat 0)) else none
      between := (options.values "output-delimiter").getLast?.map fun text =>
        if text.isEmpty then [Char.ofNat 0] else text.toList
      mark := if options.has "z" then Char.ofNat 0 else '\n'
      onlyDelimited := options.has "s" }

/-- Work on what operands hold, one after another: what is printed of each text. -/
def Setting.onOperands (s : Setting) (unreadable : String → FileError → Outlet × Stream)
    (operands : List String) (print : List Char → List Char) : Result :=
  let operands := if operands.isEmpty then ["-"] else operands
  let opened := s.openAll operands
  let printed := opened.map fun (name, held) =>
    match held with
    | .error e => unreadable name e
    | .ok stream => (.output, .ofText (print stream.text))
  { s.finish (if opened.all fun (_, held) => held.isOk then 0 else 1) printed with
    left := s.leftBy operands
    milliseconds := if anyEndless opened then none else some 0 }

def cut : Tool := fun s =>
  match splitOptions cutOptions true s.words with
  | .error e => s.fail 1 (e ++ "\n" ++ helpHint s.name)
  | .ok (options, operands) =>
    if options.has "help" then s.print (helpText "cut")
    else match readSelection options with
      | .error e => s.fail 1 (e ++ "\n" ++ helpHint s.name)
      | .ok selection => s.onOperands s.unreadable operands fun text =>
          (linesEndingIn selection.mark text).flatMap fun line =>
            selection.line (dropMark selection.mark line)

end PassTuner.Toolbox

import PassTuner.Toolbox.Format
import PassTuner.Toolbox.Options

/-! Tools that print their arguments. -/
namespace PassTuner.Toolbox

open Text (Stream)

def joinWords (words : List String) : List Char := (" ".intercalate words).toList

/-- What tools print when asked for help: the line that it ends with. -/
def helpText (tool : String) : List Char :=
  ("or available locally via: info '(coreutils) " ++ tool ++ " invocation'\n").toList

/-- What tools print of their version: the line that it ends with. -/
def versionText (tool : String) : List Char :=
  let makers := match tool with
    | "true" | "false" => "Jim Meyering"
    | "echo" => "Brian Fox and Chet Ramey"
    | "wc" => "Paul Rubin and David MacKenzie"
    | "cat" => "Torbjorn Granlund and Richard M. Stallman"
    | "sleep" => "Jim Meyering and Paul Eggert"
    | _ => "David MacKenzie"
  ("Written by " ++ makers ++ ".\n").toList

/-- What a tool prints that is asked about itself and nothing else. -/
def Setting.about? (s : Setting) (tool : String) : Option (List Char) :=
  match s.words with
  | ["--help"] => some (helpText tool)
  | ["--version"] => some (versionText tool)
  | _ => none

def FoundOptions.about? (options : FoundOptions) (tool : String) : Option (List Char) :=
  if options.has "help" then some (helpText tool)
  else if options.has "version" then some (versionText tool)
  else none

/-- A tool that first looks whether it is asked about itself. -/
def orAbout (tool : String) (run : Tool) : Tool := fun s =>
  match s.about? tool with
  | some text => s.print text
  | none => run s

/-- A tool that ends with a status, whatever its arguments. -/
def constant (tool : String) (status : Nat) : Tool := fun s =>
  match s.about? tool with
  | some text => s.finish status [(.output, .ofText text)]
  | none => s.finish status []

/-- Whether a word holds options of `echo` and nothing else. -/
def isEchoOption (word : String) : Bool :=
  match word.toList with
  | '-' :: letter :: letters => (letter :: letters).all ['n', 'e', 'E'].contains
  | _ => false

/-- Escapes that `echo` knows. -/
def echoEscapes : EscapeStyle := ⟨false, true, .known, true, true, false⟩

/-- Print the words; `-n` leaves off the line end, `-e` resolves escapes and `-E` does not. -/
def echo : Tool := orAbout "echo" fun s =>
  let options := s.words.takeWhile isEchoOption
  let letters := options.flatMap fun word => word.toList.drop 1
  let escapes := (letters.filter fun letter => letter != 'n').getLast? == some 'e'
  let text := joinWords (s.words.drop options.length)
  let (text, ending) := if escapes then echoEscapes.apply text else (text, .reached)
  s.print (if ending = .stopped || letters.contains 'n' then text else text ++ ['\n'])

/-- The conversions that the flags of a directive and its places allow. -/
def allowedConversions (d : Directive) : List Char :=
  let barred := (if d.flags.contains '\'' then ['a', 'A', 'c', 'e', 'E', 'o', 's', 'x', 'X'] else []) ++
    (if d.flags.contains 'I' then ['a', 'A', 'c', 'e', 'E', 'o', 's', 'u', 'x', 'X'] else []) ++
    (if d.flags.contains '#' then ['c', 'd', 'i', 's', 'u'] else []) ++
    (if d.flags.contains '0' then ['c', 's'] else []) ++
    (if d.places = .absent then [] else ['c'])
  (['c', 's'] ++ signedLetters ++ unsignedLetters ++ realLetters).filter fun c => !barred.contains c

/-- How `printf` prints: numbers have 64 bits, and reals a significand of 64 bits. -/
def printfDialect : Dialect where
  escapes := ⟨true, true, .strict, false, true, true⟩
  argumentEscapes := ⟨true, true, .strict, true, true, true⟩
  precision := .extended
  flagLetters := ['-', '+', ' ', '0', '#', '\'', 'I']
  sizeLetters := ['l', 'L', 'h', 'j', 't', 'z']
  accepts d := d.conversion.any (allowedConversions d).contains
  acceptsApart d := d.written == ['%', 'b'] || d.written == ['%', 'q']
  invalid d := String.ofList d.written ++ ": invalid conversion specification"
  called := quoteName
  notNumeric := "expected a numeric value"
  incomplete := "value not completely converted"
  restFirst := false
  warns := true
  takesLoneQuote := false
  failure := 1

/-- What a tool has printed by a format; complaints name the tool. -/
def Printing.chunks (p : Printing) (complaint : String → Outlet × Stream) : List (Outlet × Stream) :=
  p.printed.map fun (outlet, text) =>
    match outlet with
    | .output => (.output, .ofText text)
    | .errors => complaint (String.ofList text)

def printf : Tool := orAbout "printf" fun s =>
  match if s.words.head? = some "--" then s.words.drop 1 else s.words with
  | [] => s.fail 1 ("missing operand\n" ++ helpHint s.name)
  | format :: arguments =>
    let p := printfDialect.run format arguments
    let excess := match p.arguments with
      | argument :: _ =>
        if p.ended then []
        else [s.complaint ("warning: ignoring excess arguments, starting with " ++ quoteName argument)]
      | [] => []
    s.finish p.status (p.chunks s.complaint ++ excess)

def yes : Tool := orAbout "yes" fun s =>
  let words := if s.words.head? = some "--" then s.words.drop 1 else s.words
  let line := if words.isEmpty then ['y'] else joinWords words
  { s.finish 0 [(.output, ⟨[], line ++ ['\n']⟩)] with milliseconds := none }

/-! ### Numbers in turn -/

/-- A decimal number: how often it holds the unit of its last place, how many places it has behind
the point, and how wide it is written. -/
structure PointedNumber where
  units : Int
  places : Nat
  width : Nat
  deriving DecidableEq, Repr

namespace PointedNumber

def read? (word : String) : Option PointedNumber :=
  let text := word.toList.dropWhile isSpace
  let text := if text.head? = some '+' then text.drop 1 else text
  let (negative, body) := readSign text
  match readWhole? true body, body with
  | some (i, []), '0' :: _ :: _ => some ⟨if negative then -i else i, 0, text.length⟩
  | _, _ =>
    let (whole, rest) := spanDigits 10 body
    let (fraction, rest) := match rest with
      | '.' :: rest => spanDigits 10 rest
      | rest => ([], rest)
    let power := match rest with
      | [] => some 0
      | e :: rest =>
        if e = 'e' ∨ e = 'E' then (readWhole? false rest).bind fun (i, rest) => if rest.isEmpty then some i else none
        else none
    match power with
    | none => none
    | some power =>
      if whole.isEmpty && fraction.isEmpty || 1000 < power.natAbs then none
      else
        let n : Int := digitsIn 10 (whole ++ fraction)
        let places : Int := fraction.length - power
        let units := (if negative then -n else n) * (Nat.pow 10 (-places).toNat : Nat)
        some ⟨units, places.toNat, text.length + if whole.isEmpty then 1 else 0⟩

/-- The units of a number in a place that is not before its last. -/
def unitsAt (n : PointedNumber) (places : Nat) : Int := n.units * (Nat.pow 10 (places - n.places) : Nat)

/-- A number of units, written with so many places, and with zeros up to a width. -/
def text (places width : Nat) (units : Int) : List Char :=
  let digits := (toString units.natAbs).toList
  let digits := List.replicate (places + 1 - digits.length) '0' ++ digits
  let body := digits.take (digits.length - places) ++
    (if places = 0 then [] else '.' :: digits.drop (digits.length - places))
  let sign := if units < 0 then ['-'] else []
  sign ++ List.replicate (width - sign.length - body.length) '0' ++ body

end PointedNumber

/-- How many numbers are printed at most before they count as endless. -/
def mostNumbers : Nat := 1000000

/-- The numbers from one to another, in steps. -/
def stepThrough (step last : Int) : Nat → Int → List Int
  | 0, _ => []
  | fuel + 1, i =>
    if (0 < step ∧ last < i) ∨ (step < 0 ∧ i < last) then [] else i :: stepThrough step last fuel (i + step)

def seqOptions : List KnownOption :=
  [knownAs 's' "separator" .required, knownAs 'w' "equal-width" .none, knownName "help" .none]

/-- The words up to the first that is no option, and the others. A number may be negative. -/
def splitAtNumber : List String → List String × List String
  | [] => ([], [])
  | "-s" :: value :: rest => let (options, others) := splitAtNumber rest; ("-s" :: value :: options, others)
  | word :: rest =>
    match word.toList with
    | '-' :: c :: _ =>
      if c.isDigit || c == '.' then ([], word :: rest)
      else let (options, others) := splitAtNumber rest; (word :: options, others)
    | _ => ([], word :: rest)

/-- Print numbers in turn, from one or a given one, up to another. -/
def seq : Tool := orAbout "seq" fun s =>
  let (before, behind) := splitAtNumber s.words
  match splitOptions seqOptions false before with
  | .error e => s.fail 1 (e ++ "\n" ++ helpHint s.name)
  | .ok (found, operands) =>
    let operands := operands ++ behind
    match operands.find? fun word => (PointedNumber.read? word).isNone, operands.filterMap PointedNumber.read? with
    | some word, _ =>
      s.fail 1 ("invalid floating point argument: " ++ quoteName word ++ "\n" ++ helpHint s.name)
    | none, [] => s.fail 1 ("missing operand\n" ++ helpHint s.name)
    | none, _ :: _ :: _ :: _ :: _ =>
      s.fail 1 ("extra operand " ++ quoteName (operands.getD 3 "") ++ "\n" ++ helpHint s.name)
    | none, numbers =>
      let one : PointedNumber := ⟨1, 0, 1⟩
      let (first, step, last) : PointedNumber × PointedNumber × PointedNumber := match numbers with
        | [first, step, last] => (first, step, last)
        | [first, last] => (first, one, last)
        | numbers => (one, one, numbers.headD one)
      if step.units = 0 then
        s.fail 1 ("invalid Zero increment value: " ++ quoteName (operands.getD 1 "") ++ "\n" ++ helpHint s.name)
      else
        let places := max first.places step.places
        let finest := max places last.places
        let scale : Int := (Nat.pow 10 (finest - places) : Nat)
        let count := ((last.unitsAt finest - first.unitsAt finest) / step.unitsAt finest).toNat + 1
        let units := stepThrough (step.unitsAt finest) (last.unitsAt finest) (min count mostNumbers)
          (first.unitsAt finest)
        let widths := [first, last].map fun n =>
          n.width - (if n.places = 0 then 0 else n.places + 1) + (if places = 0 then 0 else places + 1)
        let width := if found.has "w" then widths.foldl max 0 else 0
        let texts := units.map fun i => PointedNumber.text places width (i / scale)
        let separator := ((found.values "s").getLast?.getD "\n").toList
        let printed := if texts.isEmpty then [] else separator.intercalate texts ++ ['\n']
        if count ≤ mostNumbers then s.print printed
        else { s.finish 0 [(.output, ⟨printed, ['\n']⟩)] with milliseconds := none }

end PassTuner.Toolbox

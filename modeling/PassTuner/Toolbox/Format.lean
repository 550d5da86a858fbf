import PassTuner.Toolbox.Basic
import PassTuner.Toolbox.Escape
import PassTuner.Toolbox.Quantity

/-! Formats: text with directives that are filled in with arguments. -/
namespace PassTuner.Toolbox

open Text (Stream)

/-- A width or a number of places: not given, given, or to be taken from the arguments. -/
inductive Amount where
  | absent
  | given (n : Nat)
  | argument
  deriving DecidableEq, Repr

/-- A directive as it is written, and as it is meant. -/
structure Directive where
  written : List Char
  flags : List Char
  width : Amount
  places : Amount
  /-- nothing, if the format ends before it -/
  conversion : Option Char
  deriving DecidableEq, Repr

/-- An amount at the start of a text, and what follows. -/
def readAmount (text : List Char) : Amount × List Char :=
  match text with
  | '*' :: rest => (.argument, rest)
  | _ =>
    match spanDigits 10 text with
    | ([], rest) => (.absent, rest)
    | (digits, rest) => (.given (digitsIn 10 digits), rest)

/-- The directive behind a percent sign, and what follows. The letters for flags and sizes are
given; a point without digits means no places. -/
def Directive.read (flagLetters sizeLetters text : List Char) : Directive × List Char :=
  let (flags, rest) := text.span flagLetters.contains
  let (width, rest) := readAmount rest
  let (places, rest) := match rest with
    | '.' :: rest =>
      let (places, rest) := readAmount rest
      (if places = Amount.absent then Amount.given 0 else places, rest)
    | rest => (Amount.absent, rest)
  let rest := rest.dropWhile sizeLetters.contains
  let after := rest.drop 1
  (⟨'%' :: text.take (text.length - after.length), flags, width, places, rest.head?⟩, after)

/-- How a field is filled: what stands in front of its digits, and in which of three ways it is
brought to its width. -/
structure Field where
  left : Bool
  zeros : Bool
  width : Nat

def Field.fill (f : Field) (lead body : List Char) : List Char :=
  let missing := f.width - (lead.length + body.length)
  if f.left then lead ++ body ++ List.replicate missing ' '
  else if f.zeros then lead ++ List.replicate missing '0' ++ body
  else List.replicate missing ' ' ++ lead ++ body

/-- A directive with its amounts known. -/
structure Filled where
  flags : List Char
  width : Nat
  places : Option Nat
  conversion : Char

namespace Filled

def has (d : Filled) (flag : Char) : Bool := d.flags.contains flag

def field (d : Filled) (zeros : Bool) : Field := ⟨d.has '-', zeros && d.has '0', d.width⟩

def sign (d : Filled) (negative : Bool) : List Char :=
  if negative then ['-'] else if d.has '+' then ['+'] else if d.has ' ' then [' '] else []

def cased (d : Filled) (text : List Char) : List Char :=
  if d.conversion.isUpper then text.map Char.toUpper else text

/-- Digits, so many at least; no digit for a zero if none is asked for. -/
def digits (d : Filled) (base n : Nat) : List Char :=
  if n = 0 ∧ d.places = some 0 then []
  else Quantity.zeroFilled (d.places.getD 1) (Nat.toDigits base n)

def signed (d : Filled) (i : Int) : List Char :=
  (d.field d.places.isNone).fill (d.sign (decide (i < 0))) (d.digits 10 i.natAbs)

def unsigned (d : Filled) (n : Nat) : List Char :=
  let base := match d.conversion with
    | 'o' => 8
    | 'u' => 10
    | _ => 16
  let digits := d.digits base n
  let digits := if d.has '#' && base == 8 && digits.head? != some '0' then '0' :: digits else digits
  let lead := if d.has '#' && base == 16 && n != 0 then ['0', 'x'] else []
  (d.field d.places.isNone).fill (d.cased lead) (d.cased digits)

def real (d : Filled) (p : Precision) (q : Quantity) : List Char :=
  let body := d.cased (q.body p d.conversion.toLower (d.has '#') d.places)
  let isHex := q.isFinite && d.conversion.toLower == 'a'
  (d.field q.isFinite).fill (d.sign q.isNegative ++ if isHex then body.take 2 else [])
    (if isHex then body.drop 2 else body)

/-- A text, cut to so many bytes. -/
def text (d : Filled) (bs : List Char) : List Char :=
  (d.field false).fill [] (match d.places with
    | some n => bs.take n
    | none => bs)

end Filled

/-- Directives for whole numbers with a sign, for those without, and for reals. -/
def signedLetters : List Char := ['d', 'i']

def unsignedLetters : List Char := ['o', 'u', 'x', 'X']

def realLetters : List Char := ['a', 'A', 'e', 'E', 'f', 'F', 'g', 'G']

/-- How a tool prints by a format, and how it complains. -/
structure Dialect where
  /-- escapes in a format, and in an argument -/
  escapes : EscapeStyle
  argumentEscapes : EscapeStyle
  precision : Precision
  flagLetters : List Char
  sizeLetters : List Char
  /-- whether a directive is one; a `b` and a `q` are asked for apart -/
  accepts : Directive → Bool
  /-- whether a directive is one for an argument with escapes, or for one to be quoted -/
  acceptsApart : Directive → Bool
  /-- the complaint about a directive that is none -/
  invalid : Directive → String
  /-- how an argument is called in a complaint -/
  called : String → String
  notNumeric : String
  incomplete : String
  /-- whether what follows a number is worth a complaint before its size is -/
  restFirst : Bool
  /-- whether what follows a character constant is worth a complaint -/
  warns : Bool
  /-- whether a quote with no character behind it is a constant -/
  takesLoneQuote : Bool
  /-- the status when there is no way on -/
  failure : Nat

/-- How far printing has come: what is printed, the arguments left, the status, and whether it
has ended. -/
structure Printing where
  printed : List (Outlet × List Char)
  arguments : List String
  status : Nat
  ended : Bool

namespace Printing

def put (p : Printing) (text : List Char) : Printing :=
  { p with printed := p.printed ++ [(.output, text)] }

def complain (p : Printing) (status : Nat) (text : String) : Printing :=
  { p with printed := p.printed ++ [(.errors, text.toList)], status := max p.status status }

def fail (p : Printing) (status : Nat) (text : String) : Printing :=
  { p.complain status text with status := status, ended := true }

/-- The next argument, empty if there is none. -/
def next (p : Printing) : String × Printing :=
  match p.arguments with
  | [] => ("", p)
  | argument :: rest => (argument, { p with arguments := rest })

end Printing

namespace Dialect

/-- What an argument stands for if it begins with a quote: the byte behind it. -/
def constant? (dialect : Dialect) (argument : String) : Option (Char × List Char) :=
  match argument.toList with
  | quote :: rest =>
    if quote = '\'' ∨ quote = '"' then
      match rest with
      | c :: rest => some (c, rest)
      | [] => if dialect.takesLoneQuote then some (Char.ofNat 0, []) else none
    else none
  | [] => none

/-- Complain about what could not be read of an argument. -/
def checkRead (dialect : Dialect) (argument : String) (nothing range : Bool) (rest : List Char)
    (p : Printing) : Printing :=
  if range && (rest.isEmpty || !dialect.restFirst) then
    p.complain 1 (dialect.called argument ++ ": Numerical result out of range")
  else if rest.isEmpty then p
  else if nothing then p.complain 1 (dialect.called argument ++ ": " ++ dialect.notNumeric)
  else p.complain 1 (dialect.called argument ++ ": " ++ dialect.incomplete)

/-- Take an argument as a whole number, unless it is a constant; within the bounds that are
given. -/
def takeWhole (dialect : Dialect) (bound : Int → Int) (p : Printing) : Int × Printing :=
  let (argument, p) := p.next
  match dialect.constant? argument, readWhole? true argument.toList with
  | some (c, rest), _ =>
    let p := if dialect.warns && !rest.isEmpty then
        p.complain 0 ("warning: " ++ String.ofList rest ++
          ": character(s) following character constant have been ignored")
      else p
    (c.toNat, p)
  | none, none => (0, dialect.checkRead argument true false argument.toList p)
  | none, some (i, rest) =>
    (bound i, dialect.checkRead argument false (bound i != i) rest p)

/-- The greatest number without sign. -/
def greatestUnsigned : Int := 0xffffffffffffffff

/-- A number of 64 bits without sign; the magnitude is kept within them. -/
def boundUnsigned (i : Int) : Int :=
  if greatestUnsigned < i.natAbs then greatestUnsigned else i

def takeReal (dialect : Dialect) (p : Printing) : Quantity × Printing :=
  let (argument, p) := p.next
  match dialect.constant? argument, Quantity.read? dialect.precision argument.toList with
  | some (c, rest), _ =>
    let p := if dialect.warns && !rest.isEmpty then
        p.complain 0 ("warning: " ++ String.ofList rest ++
          ": character(s) following character constant have been ignored")
      else p
    ((Quantity.ofDecimal dialect.precision false c.toNat 0).1, p)
  | none, none => (.zero, dialect.checkRead argument true false argument.toList p)
  | none, some ((q, range), rest) => (q, dialect.checkRead argument false range rest p)

def greatestAmount : Nat := 0x7fffffff

/-- The amount that is meant, and whether it is below zero. A negative amount is as good as none
where one may be missing. -/
def takeAmount (dialect : Dialect) (kind : String) (negative : Bool) (amount : Amount) (p : Printing) :
    Option Nat × Bool × Printing :=
  match amount with
  | .absent => (none, false, p)
  | .given n => (some n, false, p)
  | .argument =>
    if p.arguments.isEmpty then (some 0, false, p)
    else
      let (argument, _) := p.next
      let (i, p) := dialect.takeWhole clampWhole p
      if i < 0 && !negative then (none, true, p)
      else if greatestAmount < i.natAbs then
        (none, false, p.fail dialect.failure ("invalid " ++ kind ++ ": " ++ dialect.called argument))
      else (some i.natAbs, decide (i < 0), p)

def fillIn (dialect : Dialect) (d : Filled) (p : Printing) : Printing :=
  if signedLetters.contains d.conversion then
    let (i, p) := dialect.takeWhole clampWhole p
    p.put (d.signed i)
  else if unsignedLetters.contains d.conversion then
    let (i, p) := dialect.takeWhole boundUnsigned p
    p.put (d.unsigned (i % (greatestUnsigned + 1)).toNat)
  else if realLetters.contains d.conversion then
    let (q, p) := dialect.takeReal p
    p.put (d.real dialect.precision q)
  else
    let (argument, p) := p.next
    if d.conversion = 'c' then p.put ({ d with places := none }.text [argument.toList.headD (Char.ofNat 0)])
    else if d.conversion = 'b' then
      let (text, ending) := dialect.argumentEscapes.apply argument.toList
      let p := p.put (d.text text)
      match ending with
      | .reached => p
      | .stopped => { p with ended := true }
      | .mistaken text => p.fail dialect.failure text
    else if d.conversion = 'q' then p.put (quoteWord argument).toList
    else p.put (d.text argument.toList)

/-- Print by a directive. Its amounts are taken first. -/
def follow (dialect : Dialect) (d : Directive) (p : Printing) : Printing :=
  let (width, left, p) := dialect.takeAmount "field width" true d.width p
  let (places, _, p) := if p.ended then (none, false, p)
    else dialect.takeAmount "precision" false d.places p
  if p.ended then p
  else match d.conversion with
    | none => p.fail dialect.failure (dialect.invalid d)
    | some conversion =>
      if dialect.accepts d || dialect.acceptsApart d then
        dialect.fillIn ⟨if left then '-' :: d.flags else d.flags, width.getD 0, places, conversion⟩ p
      else p.fail dialect.failure (dialect.invalid d)

/-- Go through a format once. The characters are counted down by `fuel`. -/
def printOnce (dialect : Dialect) : Nat → List Char → Printing → Printing
  | 0, _, p => p
  | _ + 1, [], p => p
  | fuel + 1, '%' :: '%' :: rest, p => dialect.printOnce fuel rest (p.put ['%'])
  | fuel + 1, '%' :: rest, p =>
    let (d, rest) := Directive.read dialect.flagLetters dialect.sizeLetters rest
    let p := dialect.follow d p
    if p.ended then p else dialect.printOnce fuel rest p
  | fuel + 1, '\\' :: rest, p =>
    match dialect.escapes.resolve rest with
    | (.bytes bs, rest) => dialect.printOnce fuel rest (p.put bs)
    | (.stop, _) => { p with ended := true }
    | (.mistake text, _) => p.fail dialect.failure text
  | fuel + 1, c :: rest, p => dialect.printOnce fuel rest (p.put [c])

/-- Go through a format as long as that takes up arguments. -/
def printAll (dialect : Dialect) (format : List Char) : Nat → Printing → Printing
  | 0, p => p
  | fuel + 1, p =>
    let q := dialect.printOnce (format.length + 1) format p
    if q.ended || q.arguments.isEmpty || p.arguments.length ≤ q.arguments.length then q
    else dialect.printAll format fuel q

def run (dialect : Dialect) (format : String) (arguments : List String) : Printing :=
  dialect.printAll format.toList (arguments.length + 1) ⟨[], arguments, 0, false⟩

end Dialect

end PassTuner.Toolbox

import PassTuner.Text.Bytes
import PassTuner.Toolbox.Number

/-! Backslash escapes, as tools that print their arguments know them. -/
namespace PassTuner.Toolbox

/-- How a number of base sixteen behind an `x` is taken. -/
inductive HexEscape where
  | unknown
  /-- without a digit it is no escape -/
  | known
  /-- without a digit it is a mistake -/
  | strict
  deriving DecidableEq, Repr

/-- Which escapes a tool knows beside the common ones. -/
structure EscapeStyle where
  /-- a double quote stands for itself -/
  quote : Bool
  /-- an `e` stands for the escape character -/
  escape : Bool
  hex : HexEscape
  /-- a zero may stand in front of three octal digits -/
  zeroFirst : Bool
  /-- a `c` ends the text for good -/
  stop : Bool
  /-- a `u` or `U` gives a code point -/
  codePoints : Bool
  deriving DecidableEq, Repr

/-- Characters that have a letter of their own behind a backslash. -/
def escapeLetters : List (Char × Nat) :=
  [('a', 7), ('b', 8), ('f', 12), ('n', 10), ('r', 13), ('t', 9), ('v', 11), ('\\', 92)]

/-- What an escape stands for. -/
inductive Escaped where
  | bytes (bs : List Char)
  | stop
  | mistake (text : String)
  deriving DecidableEq, Repr

/-- Digits of a base at the start of a text, so many at most, and what follows. -/
def limitedDigits (base limit : Nat) (text : List Char) : List Char × List Char :=
  let digits := (text.take limit).takeWhile fun c => decide (digitValue c < base)
  (digits, text.drop digits.length)

/-- Whether a code point can be given by its number: those of the basic characters cannot, nor those
of controls and of halves of pairs. -/
def isNameable (n : Nat) : Bool :=
  (decide (0x9f < n) || n == '$'.toNat || n == '@'.toNat || n == '`'.toNat) &&
    !(decide (0xd800 ≤ n) && decide (n ≤ 0xdfff))

/-- A code point by its number, in so many digits of base sixteen at least. -/
def numberedCodePoint (letter : Char) (size n : Nat) : List Char :=
  let digits := Nat.toDigits 16 n
  '\\' :: letter :: (List.replicate (size - digits.length) '0' ++ digits)

/-- The bytes of a code point; those that are not ASCII are shown by their number. -/
def codePointBytes (n : Nat) : List Char :=
  if n < 0x80 then [Char.ofNat n]
  else if n < 0x10000 then '\\' :: 'u' :: ((numberedCodePoint 'u' 4 n).drop 2).map Char.toUpper
  else '\\' :: 'U' :: ((numberedCodePoint 'U' 8 n).drop 2).map Char.toUpper

/-- Resolve the escape behind a backslash: what it stands for, and what follows. -/
def EscapeStyle.resolve (style : EscapeStyle) : List Char → Escaped × List Char
  | [] => (.bytes ['\\'], [])
  | c :: rest =>
    match escapeLetters.lookup c with
    | some code => (.bytes [Char.ofNat code], rest)
    | none =>
      if c = 'c' ∧ style.stop then (.stop, rest)
      else if c = '"' ∧ style.quote then (.bytes ['"'], rest)
      else if c = 'e' ∧ style.escape then (.bytes [Char.ofNat 27], rest)
      else if digitValue c < 8 then
        let (digits, rest) := limitedDigits 8 3 (if c = '0' ∧ style.zeroFirst then rest else c :: rest)
        (.bytes [Text.byte (digitsIn 8 digits)], rest)
      else if c = 'x' ∧ style.hex ≠ .unknown then
        match limitedDigits 16 2 rest with
        | ([], _) =>
          if style.hex = .strict then (.mistake "missing hexadecimal number in escape", rest)
          else (.bytes ['\\', c], rest)
        | (digits, rest) => (.bytes [Text.byte (digitsIn 16 digits)], rest)
      else if (c = 'u' ∨ c = 'U') ∧ style.codePoints then
        let size := if c = 'u' then 4 else 8
        let (digits, rest) := limitedDigits 16 size rest
        let n := digitsIn 16 digits
        if digits.length < size then (.mistake "missing hexadecimal number in escape", rest)
        else if isNameable n then (.bytes (codePointBytes n), rest)
        else (.mistake ("invalid universal character name " ++ String.ofList (numberedCodePoint c size n)), rest)
      else (.bytes ['\\', c], rest)

/-- How a text with escapes ends. -/
inductive EscapeEnd where
  | reached
  | stopped
  | mistaken (text : String)
  deriving DecidableEq, Repr

/-- Resolve the escapes of a text, of which so many characters are left at most. -/
def EscapeStyle.unescape (style : EscapeStyle) : Nat → List Char → List Char × EscapeEnd
  | fuel + 1, '\\' :: rest =>
    match style.resolve rest with
    | (.bytes bs, rest) => (style.unescape fuel rest).map (bs ++ ·) id
    | (.stop, _) => ([], .stopped)
    | (.mistake text, _) => ([], .mistaken text)
  | fuel + 1, c :: rest => (style.unescape fuel rest).map (c :: ·) id
  | _, _ => ([], .reached)

def EscapeStyle.apply (style : EscapeStyle) (text : List Char) : List Char × EscapeEnd :=
  style.unescape (text.length + 1) text

end PassTuner.Toolbox

import PassTuner.Double.Rounding
import PassTuner.Toolbox.Number

/-! Reals of limited precision, as tools read them from words and write them in formats.

A finite one is a significand times a power of two. Reading rounds once, to the nearest, a half to
the even neighbour; writing rounds the exact value in the same way. -/
namespace PassTuner.Toolbox

open Double (roundHalfEven binaryExponent digitCount)

/-- How finely reals are held: the bits of a significand, and the powers of two that it can
stand for. -/
structure Precision where
  bits : Nat
  least : Int
  greatest : Int
  deriving DecidableEq, Repr

def Precision.double : Precision := ⟨53, -1074, 971⟩

def Precision.extended : Precision := ⟨64, -16445, 16320⟩

inductive Quantity where
  | finite (negative : Bool) (significand : Nat) (exponent : Int)
  | infinite (negative : Bool)
  | undefined (negative : Bool)
  deriving DecidableEq, Repr

namespace Quantity

def zero : Quantity := .finite false 0 0

def isNegative : Quantity → Bool
  | .finite negative _ _ | .infinite negative | .undefined negative => negative

/-- The quantity nearest to a ratio, and whether the ratio is out of range. -/
def ofRatio (p : Precision) (negative : Bool) (num den : Nat) : Quantity × Bool :=
  if num = 0 then (.finite negative 0 0, false)
  else
    let q : Int := max (binaryExponent num den - ((p.bits : Int) - 1)) p.least
    let (a, b) := if q < 0 then (num * Nat.pow 2 (-q).toNat, den) else (num, den * Nat.pow 2 q.toNat)
    let m := roundHalfEven a b
    let (m, q) := if m = Nat.pow 2 p.bits then (Nat.pow 2 (p.bits - 1), q + 1) else (m, q)
    if p.greatest < q then (.infinite negative, true)
    else (.finite negative m q, decide (m < Nat.pow 2 (p.bits - 1)) && a % b != 0)

/-- The quantity nearest to digits and a power of ten. Values far out of range are settled by their
digit count alone. -/
def ofDecimal (p : Precision) (negative : Bool) (digits : Nat) (exponent : Int) : Quantity × Bool :=
  let size : Int := digitCount digits + exponent
  if digits = 0 then (.finite negative 0 0, false)
  else if 5000 < size then (.infinite negative, true)
  else if size < -5100 then (.finite negative 0 0, true)
  else if exponent < 0 then ofRatio p negative digits (Nat.pow 10 (-exponent).toNat)
  else ofRatio p negative (digits * Nat.pow 10 exponent.toNat) 1

def ofBinary (p : Precision) (negative : Bool) (digits : Nat) (exponent : Int) : Quantity × Bool :=
  let size : Int := digits.log2 + exponent
  if digits = 0 then (.finite negative 0 0, false)
  else if 20000 < size then (.infinite negative, true)
  else if size < -20000 then (.finite negative 0 0, true)
  else if exponent < 0 then ofRatio p negative digits (Nat.pow 2 (-exponent).toNat)
  else ofRatio p negative (digits * Nat.pow 2 exponent.toNat) 1

/-! Reading. -/

/-- An exponent behind its letter, and what follows; zero if there is none. -/
def readExponent (letter : Char) (text : List Char) : Int × List Char :=
  match text with
  | c :: rest =>
    if c.toLower = letter then
      let (negative, unsigned) := readSign rest
      match spanDigits 10 unsigned with
      | ([], _) => (0, text)
      | (digits, rest) =>
        let n : Int := digitsIn 10 digits
        (if negative then -n else n, rest)
    else (0, text)
  | [] => (0, text)

/-- Digits with a point in some place, as digits and the number of those behind the point, and what
follows. There must be a digit. -/
def readPointed? (base : Nat) (text : List Char) : Option (List Char × Nat × List Char) :=
  let (whole, rest) := spanDigits base text
  let (fraction, rest) := match rest with
    | '.' :: rest => spanDigits base rest
    | rest => ([], rest)
  if whole.isEmpty && fraction.isEmpty then none
  else
    let pointed := whole.length + fraction.length < text.length - rest.length
    some (whole ++ fraction, fraction.length, if pointed then rest else text.drop whole.length)

/-- What follows a word at the start of a text, in either case. -/
def afterWord? (word : String) (text : List Char) : Option (List Char) :=
  if (text.take word.length).map Char.toLower = word.toList then some (text.drop word.length) else none

/-- What follows a note in brackets, if there is one. -/
def afterNote (text : List Char) : List Char :=
  match text with
  | '(' :: rest =>
    match rest.dropWhile fun c => c.isAlphanum || c == '_' with
    | ')' :: rest => rest
    | _ => text
  | _ => text

/-- A number that is not decimal digits: a name, or digits of base sixteen. -/
def readSpecial? (p : Precision) (negative : Bool) (text : List Char) :
    Option ((Quantity × Bool) × List Char) :=
  match afterWord? "infinity" text <|> afterWord? "inf" text, afterWord? "nan" text,
      (afterWord? "0x" text).bind (readPointed? 16) with
  | some rest, _, _ => some ((.infinite negative, false), rest)
  | _, some rest, _ => some ((.undefined negative, false), afterNote rest)
  | _, _, some (digits, places, rest) =>
    let (exponent, rest) := readExponent 'p' rest
    some (ofBinary p negative (digitsIn 16 digits) (exponent - 4 * (places : Int)), rest)
  | _, _, _ => none

/-- A real at the start of a text, perhaps behind blanks; whether it is out of range; and what
follows. -/
def read? (p : Precision) (text : List Char) : Option ((Quantity × Bool) × List Char) :=
  let (negative, unsigned) := readSign (text.dropWhile isSpace)
  match readSpecial? p negative unsigned with
  | some result => some result
  | none => (readPointed? 10 unsigned).map fun (digits, places, rest) =>
    let (exponent, rest) := readExponent 'e' rest
    (ofDecimal p negative (digitsIn 10 digits) (exponent - (places : Int)), rest)

/-! Writing. -/

def ratio (significand : Nat) (exponent : Int) : Nat × Nat :=
  if exponent < 0 then (significand, Nat.pow 2 (-exponent).toNat)
  else (significand * Nat.pow 2 exponent.toNat, 1)

/-- The point is left off in front of nothing, unless it is to be kept. -/
def withPoint (keep : Bool) (whole fraction : List Char) : List Char :=
  if fraction.isEmpty && !keep then whole else whole ++ '.' :: fraction

/-- Zeros in front, up to so many digits. -/
def zeroFilled (size : Nat) (digits : List Char) : List Char :=
  List.replicate (size - digits.length) '0' ++ digits

def fixedText (keep : Bool) (places : Nat) (num den : Nat) : List Char :=
  let digits := zeroFilled (places + 1) (Nat.toDigits 10 (roundHalfEven (num * Nat.pow 10 places) den))
  withPoint keep (digits.take (digits.length - places)) (digits.drop (digits.length - places))

/-- The quotient of a ratio by a power of ten, rounded. -/
def scaledDown (num den : Nat) (power : Int) : Nat :=
  if power < 0 then roundHalfEven (num * Nat.pow 10 (-power).toNat) den
  else roundHalfEven num (den * Nat.pow 10 power.toNat)

/-- The leading digits of a ratio, one and so many more, and the power of ten of the first. -/
def leadingDigits (places num den : Nat) : Nat × Int :=
  if num = 0 then (0, 0)
  else
    let guess : Int := (digitCount num : Int) - digitCount den
    let reached := if guess < 0 then decide (den ≤ num * Nat.pow 10 (-guess).toNat)
      else decide (den * Nat.pow 10 guess.toNat ≤ num)
    let power := if reached then guess else guess - 1
    let digits := scaledDown num den (power - places)
    if digits = Nat.pow 10 (places + 1) then (digits / 10, power + 1) else (digits, power)

def exponentText (letter : Char) (least : Nat) (exponent : Int) : List Char :=
  letter :: (if exponent < 0 then '-' else '+') :: zeroFilled least (Nat.toDigits 10 exponent.natAbs)

/-- One digit, so many places behind the point, and an exponent. -/
def scientificText (keep : Bool) (places num den : Nat) : List Char :=
  let (digits, power) := leadingDigits places num den
  let text := zeroFilled (places + 1) (Nat.toDigits 10 digits)
  withPoint keep (text.take 1) (text.drop 1) ++ exponentText 'e' 2 power

/-- A text of digits without the zeros that end its fraction. -/
def trimZeros (text : List Char) : List Char :=
  if text.contains '.' then
    let kept := text.reverse.dropWhile (· == '0')
    (if kept.head? = some '.' then kept.drop 1 else kept).reverse
  else text

/-- So many digits, in whichever form is short. -/
def generalText (keep : Bool) (places num den : Nat) : List Char :=
  let places := max places 1
  let (_, power) := leadingDigits (places - 1) num den
  if -4 ≤ power ∧ power < places then
    let text := fixedText keep (places - 1 - power).toNat num den
    if keep then text else trimZeros text
  else
    let text := scientificText keep (places - 1) num den
    let (digits, exponent) := text.span (· != 'e')
    (if keep then digits else trimZeros digits) ++ exponent

def hexDigits (n : Nat) : List Char := Nat.toDigits 16 n

/-- Digits of base sixteen with a binary exponent; all that are needed, or so many places. A
significand of 64 bits has four bits in front of its point, and a shorter one has one. -/
def hexadecimalText (p : Precision) (keep : Bool) (places : Option Nat) (significand : Nat)
    (exponent : Int) : List Char :=
  let all := (p.bits - 1) / 4
  let shift := 4 * all
  let (significand, exponent) :=
    if significand = 0 then (0, 0 - (shift : Int))
    else
      let room := p.bits - 1 - significand.log2
      let room := if p.bits = 53 then 0 else room
      (significand * Nat.pow 2 room, exponent - room)
  let shown := places.getD all
  let kept := if shown < all then roundHalfEven significand (Nat.pow 16 (all - shown))
    else significand * Nat.pow 16 (shown - all)
  let lead := kept / Nat.pow 16 shown
  let (lead, exponent) := if lead = 16 then (1, exponent + 4) else (lead, exponent)
  let fraction := if shown = 0 then [] else zeroFilled shown (hexDigits (kept % Nat.pow 16 shown))
  let fraction := if places.isSome then fraction else (fraction.reverse.dropWhile (· == '0')).reverse
  '0' :: 'x' :: withPoint keep (hexDigits lead) fraction ++ exponentText 'p' 1 (exponent + shift)

/-- The text of a quantity without its sign. The letter chooses its form. -/
def body (p : Precision) (letter : Char) (keep : Bool) (places : Option Nat) : Quantity → List Char
  | .infinite _ => "inf".toList
  | .undefined _ => "nan".toList
  | .finite _ significand exponent =>
    let (num, den) := ratio significand exponent
    match letter with
    | 'f' => fixedText keep (places.getD 6) num den
    | 'e' => scientificText keep (places.getD 6) num den
    | 'g' => generalText keep (places.getD 6) num den
    | _ => hexadecimalText p keep places significand exponent

def isFinite : Quantity → Bool
  | .finite _ _ _ => true
  | .infinite _ | .undefined _ => false

end Quantity

end PassTuner.Toolbox

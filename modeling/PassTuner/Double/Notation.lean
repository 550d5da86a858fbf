import PassTuner.Double.Shortest

/-! How doubles are written.

Digits come from `shortest`; a `Layout` holds every further decision of a format. Texts are
character lists, so that statements about them need no string lemmas. -/
namespace PassTuner.Double

/-- The decisions of one way of writing a double. -/
structure Layout where
  /-- which of two equally near shortest decimals is written -/
  tie : Tie
  /-- the decimal exponents that are written without an exponent part; all, if none is given -/
  positional : Option (Int × Int)
  /-- a whole number written without exponent part ends in a point and a zero -/
  pointed : Bool
  /-- a positive exponent carries a sign -/
  signedExponent : Bool

/-- Literals in formula texts: positional from 0.0001 up to 16 digits, always with a point. -/
def Layout.literal : Layout := ⟨.upper, some (-4, 15), true, false⟩

/-- Numbers in stored files: positional from 0.00001 up to 16 digits, then a signed exponent. -/
def Layout.stored : Layout := ⟨.even, some (-5, 15), true, true⟩

/-- Numbers in messages: never an exponent, and no point for whole numbers. -/
def Layout.plain : Layout := ⟨.upper, none, false, false⟩

def digitsOf (n : Nat) : List Char := Nat.toDigits 10 n

/-- Digits with the point after `whole` places, which may lie outside them. -/
def placePoint (pointed : Bool) (digits : List Char) (whole : Int) : List Char :=
  if whole ≤ 0 then '0' :: '.' :: (List.replicate (-whole).toNat '0' ++ digits)
  else
    let n := whole.toNat
    if digits.length ≤ n then
      digits ++ List.replicate (n - digits.length) '0' ++ (if pointed then ['.', '0'] else [])
    else digits.take n ++ '.' :: digits.drop n

/-- Digits with an exponent part: the point follows the first digit, if more follow. -/
def withExponent (signed : Bool) (digits : List Char) (exponent : Int) : List Char :=
  let mantissa := match digits with
    | d :: e :: more => d :: '.' :: e :: more
    | short => short
  let sign := if exponent < 0 then ['-'] else if signed then ['+'] else []
  mantissa ++ 'e' :: (sign ++ digitsOf exponent.natAbs)

def Layout.magnitude (layout : Layout) (magnitude : Nat) : List Char :=
  let d := shortest layout.tie magnitude
  let digits := digitsOf d.digits
  let leading : Int := d.exponent + digits.length - 1
  let inRange := match layout.positional with
    | none => true
    | some (least, greatest) => magnitude = 0 || (decide (least ≤ leading) && decide (leading ≤ greatest))
  if inRange then placePoint layout.pointed digits (leading + 1)
  else withExponent layout.signedExponent digits leading

def Layout.text (layout : Layout) (x : Double) : List Char :=
  if x.isNaN then "NaN".toList
  else
    let body := if x.isFinite then layout.magnitude x.magnitude else "inf".toList
    if x.negative then '-' :: body else body

/-- A double with a set number of decimal places, of its exact value, a half to the even digit. -/
def fixed (places : Nat) (x : Double) : List Char :=
  if x.isNaN then "NaN".toList
  else
    let body :=
      if x.isFinite then
        let (num, den) := ratio x.magnitude
        let scaled := roundHalfEven (num * Nat.pow 10 places) den
        let digits := digitsOf (scaled % Nat.pow 10 places)
        digitsOf (scaled / Nat.pow 10 places) ++ '.' ::
          (List.replicate (places - digits.length) '0' ++ digits)
      else "inf".toList
    if x.negative then '-' :: body else body

end PassTuner.Double

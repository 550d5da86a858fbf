import PassTuner.Double.Rounding

/-! Reading a double from plain text, as a measuring command prints it.

An optional sign, then `inf`, `infinity` or `nan` in any case, or digits with an optional point
(a digit on at least one side) and an optional exponent. The result is correctly rounded, and
a value out of range is infinite. -/
namespace PassTuner.Double

def digitsValue (digits : List Char) : Nat :=
  digits.foldl (fun n c => 10 * n + (c.toNat - '0'.toNat)) 0

def splitDigits (text : List Char) : List Char × List Char :=
  (text.takeWhile Char.isDigit, text.dropWhile Char.isDigit)

/-- An optional sign, true for minus, and what follows it. -/
def splitSign : List Char → Bool × List Char
  | '-' :: rest => (true, rest)
  | '+' :: rest => (false, rest)
  | text => (false, text)

/-- The fraction digits after an optional point, and what follows them. -/
def splitFraction : List Char → List Char × List Char
  | '.' :: rest => splitDigits rest
  | text => ([], text)

/-- An exponent part that reaches to the end, or nothing at all. -/
def exponentPart? : List Char → Option Int
  | [] => some 0
  | c :: rest =>
    if c = 'e' ∨ c = 'E' then
      let (negative, unsigned) := splitSign rest
      let (digits, after) := splitDigits unsigned
      if digits.isEmpty || !after.isEmpty then none
      else
        let n : Int := digitsValue digits
        some (if negative then -n else n)
    else none

/-- A decimal without sign that reaches to the end. -/
def decimal? (text : List Char) : Option (Nat × Int) :=
  let (whole, afterWhole) := splitDigits text
  let (fraction, afterFraction) := splitFraction afterWhole
  if whole.isEmpty && fraction.isEmpty then none
  else (exponentPart? afterFraction).map fun exponent =>
    (digitsValue (whole ++ fraction), exponent - (fraction.length : Int))

def read? (text : List Char) : Option Double :=
  let (negative, unsigned) := splitSign text
  let word := String.ofList (unsigned.map Char.toLower)
  if word = "inf" ∨ word = "infinity" then some (ofMagnitude negative infinityMagnitude)
  else if word = "nan" then some (ofMagnitude negative nan.magnitude)
  else (decimal? unsigned).map fun (digits, exponent) => ofDecimal negative digits exponent

end PassTuner.Double

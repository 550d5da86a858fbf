import PassTuner.Double.Basic

/-! Exact rounding between doubles and ratios of naturals.

Every finite magnitude is a ratio, and every ratio has a nearest magnitude, with a half going to
the even neighbour. Consecutive magnitudes are consecutive naturals, so a carry out of the
significand needs no case of its own. -/
namespace PassTuner.Double

/-- The quotient rounded to the nearest natural, a half to the even one. -/
def roundHalfEven (num den : Nat) : Nat :=
  let whole := num / den
  let rest := num % den
  if 2 * rest < den then whole else if den < 2 * rest then whole + 1 else whole + whole % 2

/-- What the leading bit of a normal significand is worth; it is not stored. -/
def hiddenBit : Nat := 0x10000000000000

/-- The value of a finite magnitude as significand and binary exponent. -/
def parts (magnitude : Nat) : Nat × Int :=
  if magnitude < hiddenBit then (magnitude, -1074)
  else (magnitude % hiddenBit + hiddenBit, (magnitude / hiddenBit : Nat) - 1075)

def ratio (magnitude : Nat) : Nat × Nat :=
  let (m, q) := parts magnitude
  if q < 0 then (m, Nat.pow 2 (-q).toNat) else (m * Nat.pow 2 q.toNat, 1)

/-- The binary exponent of a positive ratio: the greatest `e` with `2 ^ e ≤ num / den`. -/
def binaryExponent (num den : Nat) : Int :=
  let e : Int := (num.log2 : Int) - den.log2
  let reached := if e < 0 then decide (den ≤ num * Nat.pow 2 (-e).toNat) else decide (den * Nat.pow 2 e.toNat ≤ num)
  if reached then e else e - 1

/-- The magnitude nearest to a ratio; a ratio beyond the greatest finite one becomes infinity. -/
def nearestMagnitude (num den : Nat) : Nat :=
  if num = 0 then 0
  else
    let q : Int := max (binaryExponent num den - 52) (-1074)
    let m := if q < 0 then roundHalfEven (num * Nat.pow 2 (-q).toNat) den
      else roundHalfEven num (den * Nat.pow 2 q.toNat)
    min ((q + 1074).toNat * hiddenBit + m) infinityMagnitude

def ofNat (n : Nat) : Double := ofMagnitude false (nearestMagnitude n 1)

def ofInt (i : Int) : Double := ofMagnitude (decide (i < 0)) (nearestMagnitude i.natAbs 1)

/-- A non-negative number rounded to a whole one, a half away from zero. What is not a number
or lies below zero counts as zero. -/
def roundToNat (x : Double) : Nat :=
  if x.negative || !x.isFinite then 0
  else
    let (num, den) := ratio x.magnitude
    (2 * num + den) / (2 * den)

def digitCount (n : Nat) : Nat := (Nat.toDigits 10 n).length

/-- The magnitude nearest to `digits * 10 ^ exponent`. Values far outside the range are settled
by their digit count alone, so that no huge power is ever formed. -/
def decimalMagnitude (digits : Nat) (exponent : Int) : Nat :=
  if digits = 0 then 0
  else
    let size : Int := digitCount digits + exponent
    if 310 < size then infinityMagnitude
    else if size < -330 then 0
    else if exponent < 0 then nearestMagnitude digits (Nat.pow 10 (-exponent).toNat)
    else nearestMagnitude (digits * Nat.pow 10 exponent.toNat) 1

def ofDecimal (negative : Bool) (digits : Nat) (exponent : Int) : Double :=
  ofMagnitude negative (decimalMagnitude digits exponent)

end PassTuner.Double

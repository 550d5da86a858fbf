import PassTuner.Double.Rounding

/-! The shortest decimal that reads back to a double.

For one digit, two digits and so on, the two neighbours of the value on that decimal grid are
tried; the first grid with a neighbour that reads back wins. Of two such neighbours the nearer
is taken, and an exact tie is settled as the caller's format says. -/
namespace PassTuner.Double

/-- The number `digits * 10 ^ exponent`. -/
structure Decimal where
  digits : Nat
  exponent : Int
  deriving DecidableEq, Repr

/-- Which of two equally near neighbours is written. -/
inductive Tie where
  | upper
  | even
  deriving DecidableEq, Repr

namespace Decimal

def magnitude (d : Decimal) : Nat := decimalMagnitude d.digits d.exponent

/-- Move trailing zeros of the digits into the exponent, at most `fuel` of them. -/
def stripWithin : Nat → Decimal → Decimal
  | 0, d => d
  | fuel + 1, d =>
    if d.digits ≠ 0 ∧ d.digits % 10 = 0 then stripWithin fuel ⟨d.digits / 10, d.exponent + 1⟩ else d

def strip (d : Decimal) : Decimal := stripWithin (digitCount d.digits) d

end Decimal

def scaleDown (num den : Nat) (power : Int) : Nat × Nat :=
  if power < 0 then (num * Nat.pow 10 (-power).toNat, den) else (num, den * Nat.pow 10 power.toNat)

/-- The decimal exponent of a positive ratio: the greatest `e` with `10 ^ e ≤ num / den`,
estimated from the binary exponent and then corrected. -/
def decimalExponent (num den : Nat) : Int :=
  let guess := Int.fdiv (binaryExponent num den * 30103) 100000
  let reaches (e : Int) : Bool := let (n, d) := scaleDown num den e; decide (d ≤ n)
  if reaches (guess + 1) then guess + 1 else if reaches guess then guess else guess - 1

def exactDecimal (magnitude : Nat) : Decimal :=
  let (m, q) := parts magnitude
  if q < 0 then ⟨m * Nat.pow 5 (-q).toNat, q⟩ else ⟨m * Nat.pow 2 q.toNat, 0⟩

/-- The neighbour of the magnitude on the grid `10 ^ exponent` that reads back, if there is one. -/
def onGrid? (tie : Tie) (magnitude : Nat) (exponent : Int) : Option Decimal :=
  let (num, den) := ratio magnitude
  let (n, d) := scaleDown num den exponent
  let low : Decimal := ⟨n / d, exponent⟩
  let high : Decimal := ⟨n / d + 1, exponent⟩
  let lowFits := low.magnitude == magnitude
  let highFits := high.magnitude == magnitude
  let rest := n % d
  if lowFits && highFits then
    let lowNearer := 2 * rest < d || (2 * rest == d && tie == .even && low.digits % 2 == 0)
    some (if lowNearer then low else high)
  else if lowFits then some low
  else if highFits then some high
  else none

def firstOnGrid (tie : Tie) (magnitude : Nat) (leading : Int) : List Nat → Decimal
  | [] => exactDecimal magnitude
  | count :: more =>
    match onGrid? tie magnitude (leading - (count : Int) + 1) with
    | some d => d
    | none => firstOnGrid tie magnitude leading more

def shortest (tie : Tie) (magnitude : Nat) : Decimal :=
  if magnitude = 0 then ⟨0, 0⟩
  else
    let (num, den) := ratio magnitude
    (firstOnGrid tie magnitude (decimalExponent num den) (List.range' 1 17)).strip

end PassTuner.Double

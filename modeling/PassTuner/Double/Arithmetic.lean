import PassTuner.Double.Rounding

/-! Arithmetic on doubles.

The four operations work on exact ratios and round once, to nearest. An operand that is not a number
is handed on, made quiet; an operation that has no value (such as infinity less infinity) yields the
quiet not-a-number with its sign bit set. -/
namespace PassTuner.Double

/-- The same not-a-number with its quiet bit set. -/
def quiet (x : Double) : Double := ⟨x.bits ||| 0x0008000000000000⟩

/-- What an operation without a value yields. -/
def invalid : Double := ⟨0xfff8000000000000⟩

def isInfinite (x : Double) : Bool := decide (x.magnitude = infinityMagnitude)

def isZero (x : Double) : Bool := decide (x.magnitude = 0)

def negate (x : Double) : Double := ofMagnitude (!x.negative) x.magnitude

/-- A finite number as a ratio. -/
def signedRatio (x : Double) : Int × Nat :=
  let (num, den) := ratio x.magnitude
  (if x.negative then -(num : Int) else num, den)

/-- Hand on an operand that is not a number, or else do the operation. -/
def lift (op : Double → Double → Double) (x y : Double) : Double :=
  if x.isNaN then x.quiet
  else if y.isNaN then y.quiet
  else op x y

/-- The sum of numbers. A sum of zero is negative only if both numbers are. -/
def sum (x y : Double) : Double :=
  if x.isInfinite then
    if y.isInfinite && x.negative != y.negative then invalid else x
  else if y.isInfinite then y
  else
    let (a, b) := x.signedRatio
    let (c, d) := y.signedRatio
    let num := a * d + c * b
    let negative := if num = 0 then x.negative && y.negative else decide (num < 0)
    ofMagnitude negative (nearestMagnitude num.natAbs (b * d))

def product (x y : Double) : Double :=
  let negative := x.negative != y.negative
  if x.isInfinite || y.isInfinite then
    if x.isZero || y.isZero then invalid else ofMagnitude negative infinityMagnitude
  else
    let (a, b) := ratio x.magnitude
    let (c, d) := ratio y.magnitude
    ofMagnitude negative (nearestMagnitude (a * c) (b * d))

def quotient (x y : Double) : Double :=
  let negative := x.negative != y.negative
  if x.isInfinite then
    if y.isInfinite then invalid else ofMagnitude negative infinityMagnitude
  else if y.isInfinite then ofMagnitude negative 0
  else if y.isZero then
    if x.isZero then invalid else ofMagnitude negative infinityMagnitude
  else
    let (a, b) := ratio x.magnitude
    let (c, d) := ratio y.magnitude
    ofMagnitude negative (nearestMagnitude (a * d) (b * c))

instance : Add Double := ⟨lift sum⟩
instance : Sub Double := ⟨lift fun x y => x.sum y.negate⟩
instance : Mul Double := ⟨lift product⟩
instance : Div Double := ⟨lift quotient⟩

end PassTuner.Double

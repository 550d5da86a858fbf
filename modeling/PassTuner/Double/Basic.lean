/-! Double precision numbers, held as their bit patterns.

A pattern keeps the sign of a not-a-number, which decides its place in the total order. Two
orders are defined, both by an integer key: the total order of all patterns, in which equal
means the same bits, and the numeric comparison, which ignores the sign of zero and leaves
not-a-numbers unordered. -/
namespace PassTuner

/-- A 64-bit binary floating-point number, given by its bits. -/
structure Double where
  bits : UInt64
  deriving DecidableEq, Repr, Inhabited

namespace Double

/-- The magnitude of infinity: all exponent bits set and no fraction. -/
def infinityMagnitude : Nat := 0x7ff0000000000000

def signWeight : Nat := 0x8000000000000000

def negative (x : Double) : Bool := decide (signWeight ≤ x.bits.toNat)

/-- The pattern without its sign bit. -/
def magnitude (x : Double) : Nat := x.bits.toNat % signWeight

def ofMagnitude (negative : Bool) (m : Nat) : Double :=
  ⟨UInt64.ofNat (if negative then signWeight + m else m)⟩

def isNaN (x : Double) : Bool := decide (infinityMagnitude < x.magnitude)

def isFinite (x : Double) : Bool := decide (x.magnitude < infinityMagnitude)

def zero : Double := ⟨0⟩

def one : Double := ⟨0x3ff0000000000000⟩

def two : Double := ⟨0x4000000000000000⟩

def infinity : Double := ofMagnitude false infinityMagnitude

/-- The quiet not-a-number with a clear sign. -/
def nan : Double := ⟨0x7ff8000000000000⟩

/-- Place of a pattern in the total order: negative patterns first, larger magnitudes further
from zero, and minus zero just below plus zero. -/
def totalKey (x : Double) : Int :=
  if x.negative then -1 - (x.magnitude : Int) else x.magnitude

def totalCompare (x y : Double) : Ordering := compare x.totalKey y.totalKey

/-- Place of a number among the numbers: both zeros share one place. -/
def numericKey (x : Double) : Int :=
  if x.negative then -(x.magnitude : Int) else x.magnitude

/-- Numeric comparison; a not-a-number is comparable with nothing. -/
def compare? (x y : Double) : Option Ordering :=
  if x.isNaN || y.isNaN then none else some (compare x.numericKey y.numericKey)

def lt (x y : Double) : Bool := x.compare? y == some .lt

def le (x y : Double) : Bool := x.compare? y == some .lt || x.compare? y == some .eq

/-- Keep `x` within the two bounds; a not-a-number stays what it is. -/
def clamp (x lo hi : Double) : Double :=
  let raised := if x.lt lo then lo else x
  if hi.lt raised then hi else raised

theorem totalKeyInjective {x y : Double} (same : x.totalKey = y.totalKey) : x = y := by
  obtain ⟨⟨⟨a⟩⟩⟩ := x
  obtain ⟨⟨⟨b⟩⟩⟩ := y
  have ha := a.isLt
  have hb := b.isLt
  simp only [totalKey, negative, magnitude, UInt64.toNat, BitVec.toNat, decide_eq_true_eq] at same
  congr 3
  apply Fin.ext
  split at same <;> split at same <;> unfold signWeight at * <;> omega

theorem totalCompareEq {x y : Double} : x.totalCompare y = .eq ↔ x = y := by
  constructor
  · intro h
    exact totalKeyInjective (Std.LawfulEqOrd.eq_of_compare h)
  · rintro rfl
    simp [totalCompare]

end Double

end PassTuner

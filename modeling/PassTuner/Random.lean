import PassTuner.Double.Rounding

/-! The random stream: a 64-bit counter with a fixed odd step, scrambled by one wide product.

Bounded draws multiply a word by the bound and keep the upper half. The few words whose lower
half falls below a threshold are drawn again, so that every result is equally likely. The step is
odd, so within `2 ^ 64` draws every word comes up, and that many tries are enough. -/
namespace PassTuner

/-- The state of a random stream. -/
structure Random where
  state : UInt64
  deriving DecidableEq, Repr

namespace Random

def step : UInt64 := 0x2d358dccaa6c78a5

def mask : UInt64 := 0x8bb84b93962eacc9

def tries : Nat := 0x10000000000000000

/-- Both halves of the product of a state with its masked self, folded together. -/
def scramble (s : UInt64) : UInt64 :=
  let product := s.toNat * (s ^^^ mask).toNat
  UInt64.ofNat product ^^^ UInt64.ofNat (product / 0x10000000000000000)

/-- The next 64-bit word. -/
def next64 : StateM Random Nat := fun r =>
  let s := r.state + step
  ((scramble s).toNat, ⟨s⟩)

/-- The next 32-bit word. -/
def next32 : StateM Random Nat := fun r =>
  let (word, r) := next64 r
  (word % 0x100000000, r)

/-- Draw words of the given width until one is accepted, and return the upper half of its
product with the bound. -/
def accept (width : Nat) (draw : StateM Random Nat) (bound : Nat) : Nat → StateM Random Nat
  | 0 => fun r => (0, r)
  | fuel + 1 => fun r =>
    let (word, r) := draw r
    let product := word * bound
    let size := Nat.pow 2 width
    if (size - bound) % bound ≤ product % size then (product / size, r)
    else accept width draw bound fuel r

/-- A natural below a 64-bit bound. -/
def below (bound : Nat) : StateM Random Nat := accept 64 next64 bound tries

/-- A natural below a 32-bit bound, from 32-bit words. -/
def below32 (bound : Nat) : StateM Random Nat := accept 32 next32 bound tries

/-- An integer between two bounds, both included. -/
def between (lo hi : Int) : StateM Random Int := fun r =>
  let (offset, r) := below (hi - lo + 1).toNat r
  (lo + offset, r)

def bool : StateM Random Bool := fun r =>
  let (word, r) := next64 r
  (word % 2 == 0, r)

def fraction : Nat → StateM Random Double
  | 0 => fun r => (.zero, r)
  | fuel + 1 => fun r =>
    let (word, r) := next64 r
    let x := Double.ofMagnitude false (Double.nearestMagnitude (word / 2) Double.signWeight)
    if x.lt .one then (x, r) else fraction fuel r

/-- A double from zero up to but not including one. -/
def double : StateM Random Double := fraction tries

end Random

end PassTuner

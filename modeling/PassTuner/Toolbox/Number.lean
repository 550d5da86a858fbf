/-! Numbers in words: whole numbers in three bases, and reals of limited precision. -/
namespace PassTuner.Toolbox

def isSpace (c : Char) : Bool := c == ' ' || (decide ('\t' ≤ c) && decide (c ≤ '\r'))

/-- The value of a digit, letters standing for ten and more. -/
def digitValue (c : Char) : Nat :=
  if c.isDigit then c.toNat - '0'.toNat
  else if 'a' ≤ c ∧ c ≤ 'z' then c.toNat - 'a'.toNat + 10
  else if 'A' ≤ c ∧ c ≤ 'Z' then c.toNat - 'A'.toNat + 10
  else 99

def digitsIn (base : Nat) (digits : List Char) : Nat :=
  digits.foldl (fun n c => base * n + digitValue c) 0

/-- Digits of a base at the start of a text, and what follows. -/
def spanDigits (base : Nat) (text : List Char) : List Char × List Char :=
  text.span fun c => decide (digitValue c < base)

/-- A sign at the start of a text: whether it is a minus, and what follows. -/
def readSign : List Char → Bool × List Char
  | '-' :: rest => (true, rest)
  | '+' :: rest => (false, rest)
  | rest => (false, rest)

/-- The base that a number without sign announces, and its digits. -/
def readBase : List Char → Nat × List Char
  | '0' :: x :: digit :: rest =>
    if (x == 'x' || x == 'X') && decide (digitValue digit < 16) then (16, digit :: rest)
    else (8, '0' :: x :: digit :: rest)
  | '0' :: rest => (8, '0' :: rest)
  | rest => (10, rest)

/-- A whole number at the start of a text, perhaps behind blanks, and what follows. Its base may be
announced in front of it, or is ten. -/
def readWhole? (announced : Bool) (text : List Char) : Option (Int × List Char) :=
  let (negative, unsigned) := readSign (text.dropWhile isSpace)
  let (base, body) := if announced then readBase unsigned else (10, unsigned)
  match spanDigits base body with
  | ([], _) => none
  | (digits, rest) =>
    let n : Int := digitsIn base digits
    some (if negative then -n else n, rest)

/-- Bounds of whole numbers of 64 bits. -/
def leastWhole : Int := -0x8000000000000000

def greatestWhole : Int := 0x7fffffffffffffff

/-- The nearest number of 64 bits. -/
def clampWhole (i : Int) : Int := max leastWhole (min greatestWhole i)

/-- The number of 64 bits that a result wraps to. -/
def wrapWhole (i : Int) : Int := i.bmod 0x10000000000000000

/-- Why a text is no count. -/
inductive CountError where
  | invalid
  | tooLarge
  deriving DecidableEq, Repr

def CountError.message : CountError → String
  | .invalid => ""
  | .tooLarge => ": Value too large for defined data type"

def greatestCount : Nat := 0xffffffffffffffff

/-- Letters for units: powers of a thousand, or of 1024. -/
def unitPower? (letter : Char) : Option Nat :=
  if letter = 'k' then some 1
  else match ['K', 'M', 'G', 'T', 'P', 'E', 'Z', 'Y', 'R', 'Q'].idxOf? (if letter = 'm' then 'M' else letter) with
    | some i => some (i + 1)
    | none => none

def unit? : List Char → Option Nat
  | [] => some 1
  | ['b'] => some 512
  | letter :: rest => do
    let power ← unitPower? letter
    match rest with
    | [] | ['i', 'B'] => some (Nat.pow 1024 power)
    | ['B'] | ['D'] => some (Nat.pow 1000 power)
    | _ => none

/-- A count with a unit behind it; the unit alone is one of it. -/
def count? (text : List Char) : Except CountError Nat :=
  let (negative, unsigned) := readSign (text.dropWhile isSpace)
  let (digits, rest) := spanDigits 10 unsigned
  let signs := text.length - unsigned.length
  if negative || (digits.isEmpty && (rest.isEmpty || 0 < signs)) then .error .invalid
  else match unit? rest with
    | none => .error .invalid
    | some unit =>
      let n := (if digits.isEmpty then 1 else digitsIn 10 digits) * unit
      if greatestCount < n then .error .tooLarge else .ok n

end PassTuner.Toolbox

import PassTuner.Double.Reader
import PassTuner.Json.Basic

/-! Reading trees of stored data.

Each reader takes the text from its position and returns the tree together with the rest of the
text, or no rest where the grammar fails. Nesting is limited to 127 levels. -/
namespace PassTuner.Json

def nestingLimit : Nat := 127

/-- A reading and the text after it; no text where the grammar has failed. -/
abbrev Reading (α : Type) := α × Option (List Char)

def isSpace (c : Char) : Bool := c == ' ' || c == '\t' || c == '\n' || c == '\r'

def skipSpace (text : List Char) : List Char := text.dropWhile isSpace

def failed : Reading Json := (.fault .broken, none)

def word (expected : List Char) (value : Json) (text : List Char) : Reading Json :=
  if expected.isPrefixOf text then (value, some (text.drop expected.length)) else failed

/-- Fraction digits after a point, at least one, or no fraction at all. -/
def fraction? : List Char → Option (List Char × List Char)
  | '.' :: rest =>
    let (digits, after) := Double.splitDigits rest
    if digits.isEmpty then none else some (digits, after)
  | text => some ([], text)

/-- An exponent with at least one digit, or no exponent at all. -/
def exponent? : List Char → Option (Option Int × List Char)
  | [] => some (none, [])
  | c :: rest =>
    if c = 'e' ∨ c = 'E' then
      let (negative, unsigned) := Double.splitSign rest
      let (digits, after) := Double.splitDigits unsigned
      if digits.isEmpty then none
      else
        let n : Int := Double.digitsValue digits
        some (some (if negative then -n else n), after)
    else some (none, c :: rest)

/-- A float, unless it is beyond the greatest one. -/
def ofDouble (x : Double) : Json := if x.isFinite then .float x else .fault .unreadable

/-- The value of a number. Without fraction and exponent it is an integer if 64 bits hold it;
minus zero and all else are floats. -/
def numberValue (negative : Bool) (whole fraction : List Char) (exponent : Option Int) : Json :=
  if fraction.isEmpty && exponent.isNone then
    let n := Double.digitsValue whole
    if !negative && decide (n ≤ 0xffffffffffffffff) then .int n
    else if negative && decide (0 < n) && decide (n ≤ 0x8000000000000000) then .int (-n)
    else ofDouble (Double.ofDecimal negative n 0)
  else
    ofDouble (Double.ofDecimal negative (Double.digitsValue (whole ++ fraction))
      (exponent.getD 0 - (fraction.length : Int)))

/-- Digits of the whole part: at least one, and a zero only alone. -/
def wholeDigits? (digits : List Char) : Bool :=
  match digits with
  | [] => false
  | ['0'] => true
  | first :: _ => first != '0'

def number (text : List Char) : Reading Json :=
  let (negative, unsigned) := match text with
    | '-' :: rest => (true, rest)
    | _ => (false, text)
  let (whole, afterWhole) := Double.splitDigits unsigned
  if wholeDigits? whole then
    match fraction? afterWhole with
    | none => failed
    | some (fraction, afterFraction) =>
      match exponent? afterFraction with
      | none => failed
      | some (exponent, rest) => (numberValue negative whole fraction exponent, some rest)
  else failed

def hexValue? (c : Char) : Option Nat :=
  if '0' ≤ c ∧ c ≤ '9' then some (c.toNat - '0'.toNat)
  else if 'a' ≤ c ∧ c ≤ 'f' then some (c.toNat - 'a'.toNat + 10)
  else if 'A' ≤ c ∧ c ≤ 'F' then some (c.toNat - 'A'.toNat + 10)
  else none

def hexUnit? (a b c d : Char) : Option Nat := do
  let a ← hexValue? a
  let b ← hexValue? b
  let c ← hexValue? c
  let d ← hexValue? d
  some (((16 * a + b) * 16 + c) * 16 + d)

def shortEscape? (c : Char) : Option Char :=
  if c = '"' ∨ c = '\\' ∨ c = '/' then some c
  else if c = 'b' then some (Char.ofNat 0x08)
  else if c = 'f' then some (Char.ofNat 0x0c)
  else if c = 'n' then some '\n'
  else if c = 'r' then some '\r'
  else if c = 't' then some '\t'
  else none

/-- What a string holds so far, in reverse, with a first half of a surrogate pair that waits for
its second; nothing once a half has stayed alone. -/
structure Partial where
  held : Option (List Char)
  waiting : Option Nat

def Partial.empty : Partial := ⟨some [], none⟩

def Partial.push (p : Partial) (c : Char) : Partial :=
  ⟨if p.waiting.isSome then none else p.held.map (c :: ·), none⟩

/-- Add a 16-bit unit given by its number. -/
def Partial.pushUnit (p : Partial) (unit : Nat) : Partial :=
  if 0xd800 ≤ unit ∧ unit < 0xdc00 then
    ⟨if p.waiting.isSome then none else p.held, some unit⟩
  else if 0xdc00 ≤ unit ∧ unit < 0xe000 then
    match p.waiting with
    | some high =>
      ⟨p.held.map (Char.ofNat (0x10000 + (high - 0xd800) * 0x400 + (unit - 0xdc00)) :: ·), none⟩
    | none => ⟨none, none⟩
  else p.push (Char.ofNat unit)

/-- The string that was read, if all of it can be held. -/
def Partial.finish (p : Partial) : Option String :=
  if p.waiting.isSome then none else p.held.map fun held => String.ofList held.reverse

/-- The inside of a string up to its closing quote; nothing where the grammar fails. -/
def stringBody : List Char → Partial → Option (Option String × List Char)
  | [], _ => none
  | '"' :: rest, p => some (p.finish, rest)
  | '\\' :: 'u' :: a :: b :: c :: d :: rest, p =>
    match hexUnit? a b c d with
    | some unit => stringBody rest (p.pushUnit unit)
    | none => none
  | '\\' :: c :: rest, p =>
    match shortEscape? c with
    | some c => stringBody rest (p.push c)
    | none => none
  | c :: rest, p => if c.toNat < 0x20 ∨ c = '\\' then none else stringBody rest (p.push c)

/-- A container beyond the nesting limit has no value, although its text may be in order. -/
def limit (room : Nat) (reading : Reading Json) : Reading Json :=
  if room = 0 then
    (.fault (if reading.2.isSome then .unreadable else .broken), reading.2)
  else reading

/-- A field whose value has been read, under a name that may be unreadable. -/
def field (name : Option String) (reading : Reading Json) : Reading (String × Json) :=
  match name with
  | some name => ((name, reading.1), reading.2)
  | none => (("", .fault (if reading.2.isSome then .unreadableName else .broken)), reading.2)

mutual

/-- A value and the text after it. Every step uses up one unit of `fuel`, and `room` counts the
levels of nesting that are left. -/
def value : (fuel room : Nat) → List Char → Reading Json
  | 0, _, _ => failed
  | fuel + 1, room, text =>
    match skipSpace text with
    | [] => failed
    | 'n' :: rest => word "null".toList .null ('n' :: rest)
    | 't' :: rest => word "true".toList (.bool true) ('t' :: rest)
    | 'f' :: rest => word "false".toList (.bool false) ('f' :: rest)
    | '"' :: rest =>
      match stringBody rest .empty with
      | none => failed
      | some (some s, after) => (.string s, some after)
      | some (none, after) => (.fault .unreadable, some after)
    | '[' :: rest =>
      limit room <|
        match skipSpace rest with
        | ']' :: after => (.array [], some after)
        | inside =>
          let (items, after) := items fuel (room - 1) inside
          (.array items, after)
    | '\x7b' :: rest =>
      limit room <|
        match skipSpace rest with
        | '\x7d' :: after => (.object [], some after)
        | inside =>
          let (fields, after) := fields fuel (room - 1) inside
          (.object fields, after)
    | other => number other

/-- Items up to the closing bracket. Where the grammar fails, the last item is a hole. -/
def items : (fuel room : Nat) → List Char → Reading (List Json)
  | 0, _, _ => ([.fault .broken], none)
  | fuel + 1, room, text =>
    match value fuel room text with
    | (item, none) => ([item], none)
    | (item, some rest) =>
      match skipSpace rest with
      | ']' :: after => ([item], some after)
      | ',' :: more =>
        let (others, after) := items fuel room more
        (item :: others, after)
      | _ => ([item, .fault .broken], none)

/-- Fields up to the closing brace. Where the grammar fails, the last field is a hole. -/
def fields : (fuel room : Nat) → List Char → Reading (List (String × Json))
  | 0, _, _ => ([("", .fault .broken)], none)
  | fuel + 1, room, text =>
    match skipSpace text with
    | '"' :: rest =>
      match stringBody rest .empty with
      | none => ([("", .fault .broken)], none)
      | some (name, afterName) =>
        match skipSpace afterName with
        | ':' :: afterColon =>
          match field name (value fuel room afterColon) with
          | (entry, none) => ([entry], none)
          | (entry, some rest) =>
            match skipSpace rest with
            | '\x7d' :: after => ([entry], some after)
            | ',' :: more =>
              let (others, after) := fields fuel room more
              (entry :: others, after)
            | _ => ([entry, ("", .fault .broken)], none)
        | _ => ([("", .fault .broken)], none)
    | _ => ([("", .fault .broken)], none)

end

/-- The tree of a text, and whether nothing but space follows it. -/
def read (text : List Char) : Json × Bool :=
  match value (2 * text.length + 2) nestingLimit text with
  | (j, some rest) => (j, (skipSpace rest).isEmpty)
  | (j, none) => (j, false)

end PassTuner.Json

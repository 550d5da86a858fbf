import PassTuner.Toolbox.Regex.Reader
import PassTuner.Toolbox.Tools.Copying

/-! Translating and deleting single bytes. -/
namespace PassTuner.Toolbox

open Text (Stream)

/-! ### Sets of bytes -/

/-- A piece of a set of bytes as it is written. -/
inductive SetPiece where
  | one (c : Char)
  | range (first last : Char)
  | named (name : String)
  | equal (c : Char)
  /-- a byte so many times; as often as is needed, if no number is given -/
  | times (c : Char) (count : Option Nat)
  deriving DecidableEq, Repr

/-- The bytes of a text with escapes, and whether each was escaped. -/
def unescapedBytes : Nat → List Char → List (Char × Bool)
  | fuel + 1, '\\' :: c :: rest =>
    match escapeLetters.lookup c with
    | some code => (Char.ofNat code, true) :: unescapedBytes fuel rest
    | none =>
      let three := limitedDigits 8 3 (c :: rest)
      let (digits, behind) := if digitsIn 8 three.1 < 256 then three else limitedDigits 8 2 (c :: rest)
      if digits.isEmpty then (c, true) :: unescapedBytes fuel rest
      else (Text.byte (digitsIn 8 digits), true) :: unescapedBytes fuel behind
  | fuel + 1, c :: rest => (c, false) :: unescapedBytes fuel rest
  | _, _ => []

/-- A construct in brackets of which the first was read: what stands before the closing mark and
bracket, and what behind them. -/
def bracketed? (mark : Char) : List (Char × Bool) → Option (List Char × List (Char × Bool))
  | (a, escaped) :: rest =>
    match a == mark && !escaped, rest with
    | true, (']', false) :: behind => some ([], behind)
    | _, _ => (bracketed? mark rest).map fun (inside, behind) => (a :: inside, behind)
  | [] => none

/-- The number of times in a repetition, up to the bracket that closes it; none, if none closes it. -/
def repeated? : List (Char × Bool) → Option (List Char × List (Char × Bool))
  | (']', false) :: rest => some ([], rest)
  | (c, false) :: rest => (repeated? rest).map fun (digits, behind) => (c :: digits, behind)
  | _ => none

/-- A repetition whose number is written so. It is octal behind a zero, and zero stands for as often
as is needed. -/
def repetition (c : Char) (digits : List Char) : Except String SetPiece :=
  let base := if digits.head? = some '0' then 8 else 10
  let count := digitsIn base digits
  if digits.all (fun d => d.isDigit && decide (d.toNat < '0'.toNat + base)) && decide (count < Nat.pow 2 64) then
    .ok (.times c (if count = 0 then none else some count))
  else .error ("invalid repeat count " ++ quoteName (String.ofList digits) ++ " in [c*n] construct")

def classPiece (name : List Char) : Except String SetPiece :=
  let name := String.ofList name
  if name.isEmpty then .error "missing character class name '[::]'"
  else if (Regex.classRanges? name).isSome then .ok (.named name)
  else .error ("invalid character class " ++ quoteName name)

/-- What is equal to a character in brackets: that character. -/
def equalPiece : List Char → Except String SetPiece
  | [] => .error "missing equivalence class character '[==]'"
  | [c] => .ok (.equal c)
  | name => .error (String.ofList name ++ ": equivalence class operand must be a single character")

/-- A piece in brackets, of which the first was read, and what is behind it. -/
def bracketedPiece? (rest : List (Char × Bool)) : Option (Except String SetPiece × List (Char × Bool)) :=
  let repetition? : Option (Except String SetPiece × List (Char × Bool)) := match rest with
    | (c, _) :: ('*', false) :: inside =>
      (repeated? inside).map fun (digits, behind) => (repetition c digits, behind)
    | _ => none
  let named? : Option (Except String SetPiece × List (Char × Bool)) := match rest with
    | (':', false) :: inside => (bracketed? ':' inside).map fun (name, behind) => (classPiece name, behind)
    | ('=', false) :: inside => (bracketed? '=' inside).map fun (name, behind) => (equalPiece name, behind)
    | _ => none
  match named?, repetition? with
  | some (.error _, _), some (.ok piece, behind) => some (.ok piece, behind)
  | some found, _ => some found
  | none, found => found

/-- The pieces of a set. The last two bytes of one stand for themselves. -/
def setPieces : Nat → List (Char × Bool) → Except String (List SetPiece)
  | 0, _ | _, [] => .ok []
  | fuel + 1, (c, escaped) :: rest => do
    match (if c = '[' ∧ !escaped ∧ 2 ≤ rest.length then bracketedPiece? rest else none), rest with
    | some (piece, rest), _ => return (← piece) :: (← setPieces fuel rest)
    | none, ('-', false) :: (last, _) :: rest =>
      if last < c then
        throw ("range-endpoints of " ++ quoteName (String.ofList [c, '-', last]) ++
          " are in reverse collating sequence order")
      return .range c last :: (← setPieces fuel rest)
    | none, rest => return .one c :: (← setPieces fuel rest)

def readSet (text : String) : Except String (List SetPiece) :=
  let bytes := unescapedBytes (text.length + 1) text.toList
  setPieces (bytes.length + 1) bytes

def bytesBetween (first last : Char) : List Char :=
  (List.range (last.toNat + 1 - first.toNat)).map fun i => Char.ofNat (first.toNat + i)

/-- The most times that a byte is repeated: more than there are bytes to translate. -/
def mostTimes : Nat := 65536

namespace SetPiece

/-- The bytes of a piece; one without a number of its own comes so many times. -/
def bytes (filling : Nat) : SetPiece → List Char
  | .one c | .equal c => [c]
  | .range first last => bytesBetween first last
  | .named name => (bytesBetween (Char.ofNat 0) (Char.ofNat 255)).filter fun c =>
      ((Regex.classRanges? name).getD []).any fun (first, last) => decide (first ≤ c) && decide (c ≤ last)
  | .times c count => List.replicate (min (count.getD filling) mostTimes) c

def isFilling : SetPiece → Bool
  | .times _ none => true
  | _ => false

def isEqual : SetPiece → Bool
  | .equal _ => true
  | _ => false

def isNamed : SetPiece → Bool
  | .named _ => true
  | _ => false

def isCase (piece : SetPiece) : Bool := piece == .named "upper" || piece == .named "lower"

end SetPiece

def casePlaces : Nat → List SetPiece → List Nat
  | _, [] => []
  | place, piece :: rest =>
    (if piece.isCase then [place] else []) ++ casePlaces (place + (piece.bytes 0).length) rest

/-- Drop bytes that repeat the one before, if they are among those given. -/
def squeeze (among : List Char) : List Char → List Char
  | a :: b :: rest => if a = b ∧ among.contains a then squeeze among (b :: rest) else a :: squeeze among (b :: rest)
  | rest => rest

/-- What is done to bytes. -/
structure Translation where
  /-- bytes that are dropped -/
  deleted : List Char
  /-- bytes with those that take their place -/
  replaced : List (Char × Char)
  squeezed : List Char

def Translation.apply (t : Translation) (text : List Char) : List Char :=
  let kept := (text.filter fun c => !t.deleted.contains c).map fun c => (t.replaced.lookup c).getD c
  if t.squeezed.isEmpty then kept else squeeze t.squeezed kept

def trOptions : List KnownOption :=
  [knownAs 'c' "complement" .none, ⟨"c", some 'C', none, .none⟩, knownAs 'd' "delete" .none,
   knownAs 's' "squeeze-repeats" .none, knownAs 't' "truncate-set1" .none, knownName "help" .none]

def checkTranslation (first second : List SetPiece) (set other : List Char) (complemented truncates : Bool) :
    Except String Unit := do
  if second.any SetPiece.isEqual then
    throw "[=c=] expressions may not appear in string2 when translating"
  if second.any fun piece => piece.isNamed && !piece.isCase then
    throw "when translating, the only character classes that may appear in\nstring2 are 'upper' and 'lower'"
  if !complemented && (casePlaces 0 second).any fun place => !(casePlaces 0 first).contains place then
    throw "misaligned [:upper:] and/or [:lower:] construct"
  if other.length < set.length && !truncates then
    if other.isEmpty then throw "when not truncating set1, string2 must be non-empty"
    if second.getLast?.any SetPiece.isNamed then
      throw "when translating with string1 longer than string2,\nthe latter string must not end with a character class"
  let padded := other.length ≥ set.length || !truncates
  if complemented && first.any SetPiece.isNamed &&
      !(padded && other.length ≤ set.length && other.all fun c => other.head? == some c) then
    throw "when translating with complemented character classes,\nstring2 must map all characters in the domain to one"

def readTranslation (options : FoundOptions) (operands : List String) : Except String Translation := do
  let hint := "\n" ++ helpHint "tr"
  let (deletes, squeezes) := (options.has "d", options.has "s")
  let translates := !deletes && !(squeezes && operands.length == 1)
  match operands with
  | [] => throw ("missing operand" ++ hint)
  | [first] =>
    if deletes == squeezes then
      throw ("missing operand after " ++ quoteName first ++ "\nTwo strings must be given when " ++
        (if deletes then "both deleting and squeezing repeats." else "translating.") ++ hint)
  | _ :: second :: _ =>
    if deletes && !squeezes then
      throw ("extra operand " ++ quoteName second ++ (if operands.length = 2 then
        "\nOnly one string may be given when deleting without squeezing repeats." else "") ++ hint)
  if 2 < operands.length then throw ("extra operand " ++ quoteName (operands.getD 2 "") ++ hint)
  let first ← readSet (operands.headD "")
  let second ← readSet (operands.getD 1 "")
  if first.any SetPiece.isFilling then throw "the [c*] repeat construct may not appear in string1"
  if 1 < second.countP SetPiece.isFilling then
    throw "only one [c*] repeat construct may appear in string2"
  let complemented := options.has "c"
  let own := first.flatMap (SetPiece.bytes 0)
  let set := if complemented then (bytesBetween (Char.ofNat 0) (Char.ofNat 255)).filter fun c => !own.contains c
    else own
  let filling := set.length - (second.flatMap (SetPiece.bytes 0)).length
  let other := second.flatMap (SetPiece.bytes filling)
  if translates then
    checkTranslation first second set other complemented (options.has "t")
    let padded := if options.has "t" then other
      else other ++ List.replicate (set.length - other.length) (other.getLast?.getD ' ')
    return ⟨[], (set.zip padded).reverse, if squeezes then other else []⟩
  if second.any SetPiece.isFilling then
    throw "the [c*] construct may appear in string2 only when translating"
  return if deletes then ⟨set, [], if squeezes then other else []⟩ else ⟨[], [], set⟩

/-- Translate, delete or squeeze the bytes of the input. -/
def tr : Tool := fun s =>
  match splitOptions trOptions false s.words with
  | .error e => s.fail 1 (e ++ "\n" ++ helpHint s.name)
  | .ok (options, operands) =>
    if options.has "help" then s.print (helpText "tr")
    else match readTranslation options operands with
      | .error e => s.fail 1 e
      | .ok translation =>
        match s.inputError with
        | some e => s.fail 1 ("read error: " ++ e.message)
        | none => s.onText s.input fun text => (s.print (translation.apply text)).reading

end PassTuner.Toolbox

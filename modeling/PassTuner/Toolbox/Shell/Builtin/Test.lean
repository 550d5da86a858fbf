import PassTuner.Toolbox.FileTest
import PassTuner.Toolbox.Number

/-! Testing texts, numbers and files. -/
namespace PassTuner.Toolbox.Shell

inductive TestOperator where
  | unary (name : String)
  | binary (name : String)
  | not | and | or | open | close
  deriving DecidableEq, Repr

def unaryTests : List String :=
  ["-r", "-w", "-x", "-e", "-f", "-d", "-c", "-b", "-p", "-u", "-g", "-k", "-s", "-t", "-z", "-n", "-h",
   "-O", "-G", "-L", "-S"]

def binaryTests : List String :=
  ["=", "!=", "<", ">", "-eq", "-ne", "-ge", "-gt", "-le", "-lt", "-nt", "-ot", "-ef"]

def mayTestFiles (words : List String) : Bool :=
  words.any fun word => word == "-ef" || (unaryTests.contains word && word != "-n" && word != "-t" && word != "-z")

def testOperator? (word : String) : Option TestOperator :=
  if unaryTests.contains word then some (.unary word)
  else if binaryTests.contains word then some (.binary word)
  else match word with
    | "!" => some .not
    | "-a" => some .and
    | "-o" => some .or
    | "(" => some .open
    | ")" => some .close
    | _ => none

def isBinaryTest (word : String) : Bool :=
  match testOperator? word with
  | some (.binary _) => true
  | _ => false

/-- What a word is taken for. -/
inductive TestToken where
  | ended
  | operand
  | operator (op : TestOperator)
  deriving DecidableEq, Repr

/-- A test: its words, and what is known of files. -/
structure Test where
  words : List String
  files : Files
  directory : Place

namespace Test

/-- What the word in a place is taken for. The name of a test is an operand where it stands last, or
in front of an operator between two. -/
def token (t : Test) (i : Nat) : TestToken :=
  match t.words[i]? with
  | none => .ended
  | some word =>
    match testOperator? word, t.words[i + 1]?, t.words[i + 2]? with
    | none, _, _ => .operand
    | some (.unary _), none, _ => .operand
    | some .open, none, _ => .operand
    | some (.unary name), some next, some _ => if isBinaryTest next then .operand else .operator (.unary name)
    | some op, _, _ => .operator op

/-- A whole number with blanks around it, of 64 bits. -/
def number (word : String) : Except String Int :=
  match readWhole? false word.toList with
  | some (i, rest) =>
    if rest.all isSpace && clampWhole i == i then .ok i else .error ("Illegal number: " ++ word)
  | none => .error ("Illegal number: " ++ word)

def unary (t : Test) (name operand : String) : Except String Bool :=
  match name with
  | "-z" => .ok operand.isEmpty
  | "-n" => .ok (!operand.isEmpty)
  | "-t" => (number operand).map fun _ => false
  | _ => .ok (t.files.satisfies t.directory name operand)

def binary (t : Test) (name left right : String) : Except String Bool :=
  let compare (f : Int → Int → Bool) : Except String Bool := do
    let a ← number left
    let b ← number right
    .ok (f a b)
  match name with
  | "=" => .ok (left == right)
  | "!=" => .ok (left != right)
  | "<" => .ok (decide (left < right))
  | ">" => .ok (decide (right < left))
  | "-eq" => compare (· == ·)
  | "-ne" => compare (· != ·)
  | "-ge" => compare fun a b => decide (b ≤ a)
  | "-gt" => compare fun a b => decide (b < a)
  | "-le" => compare fun a b => decide (a ≤ b)
  | "-lt" => compare fun a b => decide (a < b)
  | "-ef" => .ok (t.files.areSame t.directory left right)
  | _ => .ok false

mutual

/-- An expression in parentheses, a test, or a word that is not empty. Returns also the place of the
last word that was looked at. -/
def primary (t : Test) : Nat → TestToken → Nat → Except String (Bool × Nat)
  | 0, _, i => .ok (false, i)
  | fuel + 1, token, i =>
    match token with
    | .ended => .ok (false, i)
    | .operator .open => do
      if t.token (i + 1) = .operator .close then return (false, i + 1)
      let (b, i) ← disjunction t fuel (t.token (i + 1)) (i + 1)
      if t.token (i + 1) ≠ .operator .close then throw "closing paren expected"
      return (b, i + 1)
    | .operator (.unary name) =>
      match t.words[i + 1]? with
      | none => .error (name ++ ": argument expected")
      | some operand => (t.unary name operand).map fun b => (b, i + 1)
    | _ =>
      match t.token (i + 1), t.words[i]?, t.words[i + 2]? with
      | .operator (.binary name), some left, some right => (t.binary name left right).map fun b => (b, i + 2)
      | .operator (.binary name), some _, none => .error (name ++ ": argument expected")
      | _, some word, _ => .ok (!word.isEmpty, i)
      | _, none, _ => .ok (false, i)

def negation (t : Test) : Nat → TestToken → Nat → Except String (Bool × Nat)
  | 0, _, i => .ok (false, i)
  | fuel + 1, token, i =>
    if token = .operator .not then do
      let next := t.token (i + 1)
      let (b, i) ← negation t fuel next (if next = .ended then i else i + 1)
      return (!b, i)
    else primary t fuel token i

def conjunction (t : Test) : Nat → TestToken → Nat → Except String (Bool × Nat)
  | 0, _, i => .ok (false, i)
  | fuel + 1, token, i => do
    let (a, i) ← negation t fuel token i
    if t.token (i + 1) = .operator .and then
      let (b, i) ← conjunction t fuel (t.token (i + 2)) (i + 2)
      return (a && b, i)
    else return (a, i)

def disjunction (t : Test) : Nat → TestToken → Nat → Except String (Bool × Nat)
  | 0, _, i => .ok (false, i)
  | fuel + 1, token, i => do
    let (a, i) ← conjunction t fuel token i
    if t.token (i + 1) = .operator .or then
      let (b, i) ← disjunction t fuel (t.token (i + 2)) (i + 2)
      return (a || b, i)
    else return (a, i)

end

/-- The test as a whole, begun with a token. -/
def whole (t : Test) (token : TestToken) : Except String Bool := do
  let (b, i) ← t.disjunction (8 * t.words.length + 8) token 0
  match t.words[i]?, t.words[i + 1]? with
  | some word, some _ => throw (if word.isEmpty then "unexpected operator" else word ++ ": unexpected operator")
  | _, _ => return b

/-- Whether a test holds. What three or four words mean is told by those at their ends first; a
negation that is told so counts once. -/
def holdsBeside (t : Test) : (negated : Bool) → Nat → Except String Bool
  | _, 0 => .ok false
  | negated, fuel + 1 =>
    let result (t : Test) (token : TestToken) : Except String Bool :=
      (t.whole token).map fun b => b != negated
    let count := t.words.length
    if count = 0 then .ok negated
    else if count = 3 && t.words[1]?.any isBinaryTest then result t .operand
    else if (count = 3 || count = 4) && t.words.head? = some "(" && t.words.getLast? = some ")" then
      let inner := { t with words := (t.words.drop 1).dropLast }
      result inner (inner.token 0)
    else if (count = 3 || count = 4) && t.words.head? = some "!" then
      { t with words := t.words.drop 1 }.holdsBeside true fuel
    else result t (t.token 0)

def holds (t : Test) : Except String Bool := t.holdsBeside false 3

end Test

end PassTuner.Toolbox.Shell

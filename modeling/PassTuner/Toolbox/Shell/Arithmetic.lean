import PassTuner.Toolbox.Number
import PassTuner.Toolbox.Shell.Session

/-! Arithmetic in scripts: whole numbers of 64 bits, and variables that hold them. -/
namespace PassTuner.Toolbox.Shell

inductive BinaryOperator where
  | times | divided | remainder | plus | minus | shiftLeft | shiftRight
  | less | atMost | greater | atLeast | equal | different | bitAnd | bitXor | bitOr
  deriving DecidableEq, Repr

/-- How tightly an operator binds, the tightest first. -/
def BinaryOperator.rank : BinaryOperator → Nat
  | .times | .divided | .remainder => 0
  | .plus | .minus => 1
  | .shiftLeft | .shiftRight => 2
  | .less | .atMost | .greater | .atLeast => 3
  | .equal | .different => 4
  | .bitAnd => 5
  | .bitXor => 6
  | .bitOr => 7

/-- One more than the greatest rank. -/
def loosest : Nat := 8

inductive ArithmeticToken where
  | number (i : Int)
  | name (text : String)
  | binary (op : BinaryOperator)
  /-- an assignment, of the value itself or of what an operator makes of it -/
  | assign (op : Option BinaryOperator)
  | and | or | not | bitNot | question | colon | open | close
  | unknown
  deriving DecidableEq, Repr

/-- What operators are written as, the longest first. -/
def arithmeticSigns : List (String × ArithmeticToken) :=
  [("<<=", .assign (some .shiftLeft)), (">>=", .assign (some .shiftRight)), ("==", .binary .equal),
   ("!=", .binary .different), ("<=", .binary .atMost), (">=", .binary .atLeast),
   ("<<", .binary .shiftLeft), (">>", .binary .shiftRight), ("&&", .and), ("||", .or),
   ("*=", .assign (some .times)), ("/=", .assign (some .divided)), ("%=", .assign (some .remainder)),
   ("+=", .assign (some .plus)), ("-=", .assign (some .minus)), ("&=", .assign (some .bitAnd)),
   ("^=", .assign (some .bitXor)), ("|=", .assign (some .bitOr)), ("=", .assign none),
   ("<", .binary .less), (">", .binary .greater), ("*", .binary .times), ("/", .binary .divided),
   ("%", .binary .remainder), ("+", .binary .plus), ("-", .binary .minus), ("&", .binary .bitAnd),
   ("^", .binary .bitXor), ("|", .binary .bitOr), ("!", .not), ("~", .bitNot), ("?", .question),
   (":", .colon), ("(", .open), (")", .close)]

def arithmeticTokens : Nat → List Char → List ArithmeticToken
  | 0, _ => []
  | _ + 1, [] => []
  | fuel + 1, c :: rest =>
    if c = ' ' ∨ c = '\t' ∨ c = '\n' then arithmeticTokens fuel rest
    else if c.isDigit then
      match readWhole? true (c :: rest) with
      | some (i, rest) => .number (clampWhole i) :: arithmeticTokens fuel rest
      | none => [.unknown]
    else if startsName c then
      let (name, rest) := (c :: rest).span isNamePart
      .name (String.ofList name) :: arithmeticTokens fuel rest
    else match arithmeticSigns.find? fun sign => sign.1.toList.isPrefixOf (c :: rest) with
      | some (text, token) => token :: arithmeticTokens fuel (rest.drop (text.length - 1))
      | none => [.unknown]

/-- The number that a text stands for, with blanks around it. -/
def wholeOfText? (text : String) : Option Int :=
  match readWhole? true text.toList with
  | some (i, rest) =>
    if rest.all isSpace && clampWhole i == i then some i else none
  | none => if text.toList.all isSpace then some 0 else none

/-- An expression: its text, for complaints. -/
structure Expression where
  text : String

namespace Expression

def fail {α : Type} (e : Expression) (message : String) : Run α :=
  Run.fail ("arithmetic expression: " ++ message ++ ": \"" ++ e.text ++ "\"")

def apply (e : Expression) (op : BinaryOperator) (a b : Int) : Run Int := do
  let ofBool (b : Bool) : Int := if b then 1 else 0
  let word (i : Int) : BitVec 64 := BitVec.ofInt 64 i
  let shift := (b % 64).toNat
  match op with
  | .times => return wrapWhole (a * b)
  | .divided =>
    if b = 0 then e.fail "division by zero"
    if a = leastWhole ∧ b = -1 then throw (.killed 8)
    return Int.tdiv a b
  | .remainder =>
    if b = 0 then e.fail "division by zero"
    if a = leastWhole ∧ b = -1 then throw (.killed 8)
    return Int.tmod a b
  | .plus => return wrapWhole (a + b)
  | .minus => return wrapWhole (a - b)
  | .shiftLeft => return (word a <<< shift).toInt
  | .shiftRight => return ((word a).sshiftRight shift).toInt
  | .less => return ofBool (decide (a < b))
  | .atMost => return ofBool (decide (a ≤ b))
  | .greater => return ofBool (decide (b < a))
  | .atLeast => return ofBool (decide (b ≤ a))
  | .equal => return ofBool (a == b)
  | .different => return ofBool (a != b)
  | .bitAnd => return (word a &&& word b).toInt
  | .bitXor => return (word a ^^^ word b).toInt
  | .bitOr => return (word a ||| word b).toInt

def numberIn (name : String) : Run Int := do
  let text := (← Run.valueOf? name).getD ""
  match wholeOfText? text with
  | some i => return i
  | none => Run.fail ("Illegal number: " ++ text)

abbrev Tokens := List ArithmeticToken

mutual

/-- A number, a variable, or an expression in parentheses, behind signs. -/
def primary (e : Expression) (skips : Bool) : Nat → Tokens → Run (Int × Tokens)
  | 0, _ => e.fail "expecting primary"
  | fuel + 1, tokens =>
    match tokens with
    | .number i :: rest => return (i, rest)
    | .name name :: rest => do
      if skips then return (0, rest)
      return (← Expression.numberIn name, rest)
    | .open :: rest => do
      let (i, rest) ← assignment e skips fuel rest
      match rest with
      | .close :: rest => return (i, rest)
      | _ => e.fail "expecting ')'"
    | .binary .plus :: rest => primary e skips fuel rest
    | .binary .minus :: rest => do
      let (i, rest) ← primary e skips fuel rest
      return (wrapWhole (-i), rest)
    | .not :: rest => do
      let (i, rest) ← primary e skips fuel rest
      return (if i = 0 then 1 else 0, rest)
    | .bitNot :: rest => do
      let (i, rest) ← primary e skips fuel rest
      return (-i - 1, rest)
    | _ => e.fail "expecting primary"

/-- Go on behind an operator whose left side is known, as long as operators bind tighter than a
rank. -/
def operations (e : Expression) (skips : Bool) :
    Nat → Int → BinaryOperator → Nat → Tokens → Run (Int × Tokens)
  | 0, _, _, _, _ => e.fail "expecting primary"
  | fuel + 1, a, op, rank, tokens => do
    let (b, rest) ← primary e skips fuel tokens
    let (b, rest) ← match rest with
      | .binary next :: more =>
        if next.rank < op.rank then operations e skips fuel b next op.rank more else pure (b, rest)
      | _ => pure (b, rest)
    let a ← if skips then pure b else e.apply op a b
    match rest with
    | .binary next :: more =>
      if rank ≤ next.rank then return (a, rest) else operations e skips fuel a next rank more
    | _ => return (a, rest)

def operation (e : Expression) (skips : Bool) : Nat → Tokens → Run (Int × Tokens)
  | 0, _ => e.fail "expecting primary"
  | fuel + 1, tokens => do
    let (a, rest) ← primary e skips fuel tokens
    match rest with
    | .binary op :: more => operations e skips fuel a op loosest more
    | _ => return (a, rest)

def conjunction (e : Expression) (skips : Bool) : Nat → Tokens → Run (Int × Tokens)
  | 0, _ => e.fail "expecting primary"
  | fuel + 1, tokens => do
    let (a, rest) ← operation e skips fuel tokens
    match rest with
    | .and :: more =>
      let (b, rest) ← conjunction e (skips || a == 0) fuel more
      return (if a ≠ 0 ∧ b ≠ 0 then 1 else 0, rest)
    | _ => return (a, rest)

def disjunction (e : Expression) (skips : Bool) : Nat → Tokens → Run (Int × Tokens)
  | 0, _ => e.fail "expecting primary"
  | fuel + 1, tokens => do
    let (a, rest) ← conjunction e skips fuel tokens
    match rest with
    | .or :: more =>
      let (b, rest) ← disjunction e (skips || a != 0) fuel more
      return (if a ≠ 0 ∨ b ≠ 0 then 1 else 0, rest)
    | _ => return (a, rest)

/-- One of two expressions, by a third. -/
def conditional (e : Expression) (skips : Bool) : Nat → Tokens → Run (Int × Tokens)
  | 0, _ => e.fail "expecting primary"
  | fuel + 1, tokens => do
    let (a, rest) ← disjunction e skips fuel tokens
    match rest with
    | .question :: more =>
      let (b, rest) ← assignment e (skips || a == 0) fuel more
      match rest with
      | .colon :: more =>
        let (c, rest) ← conditional e (skips || a != 0) fuel more
        return (if a ≠ 0 then b else c, rest)
      | _ => e.fail "expecting ':'"
    | _ => return (a, rest)

/-- An expression, perhaps assigned to a variable. -/
def assignment (e : Expression) (skips : Bool) : Nat → Tokens → Run (Int × Tokens)
  | 0, _ => e.fail "expecting primary"
  | fuel + 1, tokens =>
    match tokens with
    | .name name :: .assign op :: rest => do
      let (i, rest) ← assignment e skips fuel rest
      if skips then return (i, rest)
      let i ← match op with
        | none => pure i
        | some op => e.apply op (← Expression.numberIn name) i
      Run.assign name (some (toString i))
      return (i, rest)
    | _ => conditional e skips fuel tokens

end

def evaluate (e : Expression) : Run Int := do
  let tokens := arithmeticTokens (e.text.length + 1) e.text.toList
  let (i, rest) ← assignment e false (8 * tokens.length + 8) tokens
  if rest.isEmpty then return i else e.fail "expecting EOF"

end Expression

end PassTuner.Toolbox.Shell

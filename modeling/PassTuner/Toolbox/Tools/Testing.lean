import PassTuner.Toolbox.FileTest
import PassTuner.Toolbox.Number
import PassTuner.Toolbox.Tools.Printing

/-! Testing texts, numbers and files by a tool. -/
namespace PassTuner.Toolbox

namespace Condition

/-- Why words are no condition. -/
inductive Fault where
  | missing (after : String)
  | extra (word : String)
  | noUnary (word : String)
  | noBinary (word : String)
  | notWhole (word : String)
  | unclosed (found : Option String)
  deriving DecidableEq, Repr

def Fault.message : Fault → String
  | .missing after => "missing argument after " ++ quoteName after
  | .extra word => "extra argument " ++ quoteName word
  | .noUnary word => quoteName word ++ ": unary operator expected"
  | .noBinary word => quoteName word ++ ": binary operator expected"
  | .notWhole word => "invalid integer " ++ quoteName word
  | .unclosed none => "')' expected"
  | .unclosed (some word) => "')' expected, found " ++ quoteName word

def unaryOperators : List String :=
  ["-e", "-r", "-w", "-x", "-N", "-O", "-G", "-f", "-d", "-s", "-S", "-c", "-b", "-p", "-L", "-h", "-u", "-g",
   "-k", "-t", "-n", "-z"]

def numberOperators : List String := ["-eq", "-ne", "-lt", "-le", "-gt", "-ge"]

def isBinaryOperator (word : String) : Bool :=
  ["=", "==", "!=", "-nt", "-ot", "-ef"].contains word || numberOperators.contains word

/-- What is tested: all words, and the files there are. -/
structure Subject where
  words : List String
  files : Files
  directory : Place

/-- Reads conditions, and counts the words that were read. -/
abbrev Reader := StateT Nat (Except Fault)

namespace Subject

variable (s : Subject)

def fail {α : Type} (fault : Fault) : Reader α := throw fault

/-- There is no next word. -/
def isAtEnd : Reader Bool := return decide (s.words.length ≤ (← get))

def ahead (n : Nat) : Reader String := return s.words.getD ((← get) + n) ""

def beyond {α : Type} : Reader α := fail (.missing (s.words.getLast?.getD ""))

def pass : Reader Unit := do
  modify (· + 1)
  if ← s.isAtEnd then s.beyond

def skip : Reader Unit := modify (· + 1)

/-- The whole number that a word is, with blanks around it. -/
def whole (word : String) : Reader Int := do
  match readWhole? false word.toList with
  | some (i, rest) => if rest.all isSpace then return i else fail (.notWhole word)
  | none => fail (.notWhole word)

/-- Test a word: whether it is empty. -/
def oneWord : Reader Bool := do
  let word ← s.ahead 0
  skip
  return !word.isEmpty

def unary : Reader Bool := do
  let operator ← s.ahead 0
  if !unaryOperators.contains operator then fail (.noUnary operator)
  s.pass
  let operand ← s.ahead 0
  skip
  match operator with
  | "-n" => return !operand.isEmpty
  | "-z" => return operand.isEmpty
  | "-t" =>
    let _ ← whole operand
    return false
  | operator => return s.files.satisfies s.directory operator operand

/-- An operator between two words. The length of a word stands for a number if it is marked; a mark in
front of the second word moves both sides of an operator on texts on by one. -/
def binary (leftMeasured : Bool) : Reader Bool := do
  if leftMeasured then skip
  let left ← s.ahead 0
  let operator ← s.ahead 1
  let rightMeasured := (← s.ahead 2) == "-l" && decide ((← get) + 3 < s.words.length)
  if rightMeasured then skip
  let right ← s.ahead 2
  let start ← s.ahead 0
  modify (· + 3)
  let number (isMeasured : Bool) (word : String) : Reader Int :=
    if isMeasured then pure word.length else whole word
  let compared (f : Int → Int → Bool) : Reader Bool := do
    return f (← number leftMeasured left) (← number rightMeasured right)
  match operator with
  | "=" | "==" => return start == right
  | "!=" => return start != right
  | "-eq" => compared (· == ·)
  | "-ne" => compared (· != ·)
  | "-lt" => compared fun a b => decide (a < b)
  | "-le" => compared fun a b => decide (a ≤ b)
  | "-gt" => compared fun a b => decide (b < a)
  | "-ge" => compared fun a b => decide (b ≤ a)
  | "-ef" => return s.files.areSame s.directory left right
  | _ => return false

/-- Two words: one that must be empty, or an operator and its word. -/
def twoWords : Reader Bool := do
  let first ← s.ahead 0
  if first == "!" then
    s.pass
    return !(← s.oneWord)
  if first.length = 2 && first.startsWith "-" then s.unary else s.beyond

mutual

def among : Nat → Nat → Reader Bool
  | 0, _ => return false
  | fuel + 1, count => do
    let first ← s.ahead 0
    match count with
    | 1 => s.oneWord
    | 2 => s.twoWords
    | 3 =>
      let second ← s.ahead 1
      if isBinaryOperator second then s.binary false
      else if first == "!" then
        s.pass
        return !(← s.twoWords)
      else if first == "(" && (← s.ahead 2) == ")" then
        skip
        let value ← s.oneWord
        skip
        return value
      else if second == "-a" || second == "-o" then disjunction fuel
      else fail (.noBinary second)
    | 4 =>
      if first == "!" then
        s.pass
        return !(← among fuel 3)
      else if first == "(" && (← s.ahead 3) == ")" then
        skip
        let value ← s.twoWords
        skip
        return value
      else disjunction fuel
    | _ => disjunction fuel

def disjunction : Nat → Reader Bool
  | 0 => return false
  | fuel + 1 => do
    let left ← conjunction fuel
    if (← s.ahead 0) == "-o" then
      skip
      let right ← disjunction fuel
      return left || right
    return left

def conjunction : Nat → Reader Bool
  | 0 => return false
  | fuel + 1 => do
    let left ← single fuel
    if (← s.ahead 0) == "-a" then
      skip
      let right ← conjunction fuel
      return left && right
    return left

/-- One condition, perhaps denied or in parentheses. -/
def single : Nat → Reader Bool
  | 0 => return false
  | fuel + 1 => do
    if ← s.isAtEnd then s.beyond
    let word ← s.ahead 0
    let left := s.words.length - (← get)
    if word == "!" then
      s.pass
      return !(← single fuel)
    else if word == "(" then
      s.pass
      let inside := s.words.drop (← get)
      let near := (inside.drop 1).findIdx? (· == ")")
      let count := match near with
        | some n => if n < 3 then n + 1 else inside.length
        | none => inside.length
      let value ← among fuel count
      if ← s.isAtEnd then fail (.unclosed none)
      let closing ← s.ahead 0
      if closing != ")" then fail (.unclosed (some closing))
      skip
      return value
    else if 4 ≤ left && word == "-l" && isBinaryOperator (← s.ahead 2) then s.binary true
    else if 3 ≤ left && isBinaryOperator (← s.ahead 1) then s.binary false
    else if word.length = 2 && word.startsWith "-" then s.unary
    else s.oneWord

end

def holds : Except Fault Bool := do
  let count := s.words.length
  if count = 0 then return false
  let (value, read) ← (s.among (8 * count + 8) count).run 0
  match s.words[read]? with
  | some word => throw (.extra word)
  | none => return value

end Subject

end Condition

/-- Test what words say; between brackets, if the last word must close them. -/
def testing (bracketed : Bool) : Tool := fun s =>
  if bracketed && s.words == ["--help"] then s.print (helpText "test")
  else if bracketed && s.words.getLast? ≠ some "]" then s.fail 2 "missing ']'"
  else
    let words := if bracketed then s.words.dropLast else s.words
    match (Condition.Subject.mk words s.files s.directory).holds with
    | .error fault => s.fail 2 fault.message
    | .ok holds => s.finish (if holds then 0 else 1) []

end PassTuner.Toolbox

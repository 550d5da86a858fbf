import PassTuner.Toolbox.Regex.Reader
import PassTuner.Toolbox.Tools.Printing

/-! Expressions of words. -/
namespace PassTuner.Toolbox

namespace Expression

/-- Why an expression has no value. -/
inductive Fault where
  | missing (after : String)
  | unexpected (word : String)
  | unclosed (after : String)
  | notWhole
  | divisionByZero
  deriving DecidableEq, Repr

def Fault.message : Fault → String
  | .missing after => "syntax error: missing argument after " ++ quoteName after
  | .unexpected word => "syntax error: unexpected argument " ++ quoteName word
  | .unclosed after => "syntax error: expecting ')' after " ++ quoteName after
  | .notWhole => "non-integer argument"
  | .divisionByZero => "division by zero"

def whole? (text : String) : Option Int :=
  match text.toList with
  | '-' :: digits => if digits.isEmpty || !digits.all Char.isDigit then none else some (-(digitsIn 10 digits : Int))
  | digits => if digits.isEmpty || !digits.all Char.isDigit then none else some (digitsIn 10 digits)

/-- Whether a value counts as none: it is empty, or zero. -/
def isNothing (text : String) : Bool := text.isEmpty || whole? text == some 0

/-- What a pattern matches at the start of a text: the first group if there is one, and else the number
of bytes. -/
def matchStart (text pattern : String) : Except String String := do
  match Regex.readGrouped ⟨false, false, false⟩ pattern.toList with
  | .error mistake => .error mistake.message
  | .ok (r, _) =>
    let subject : Regex.Subject := ⟨text.toList.toArray, false⟩
    let front := r.after subject [([], 1)]
    let ends := front.flatMap fun (captures, positions) =>
      (subject.single positions).map fun i => (i, (captures.lookup 1).getD [])
    let longer (a b : Nat × List Char) : Bool := a.1 < b.1 || (a.1 == b.1 && decide (a.2.length < b.2.length))
    let (size, group) := ends.foldl (fun best found => if longer best found then found else best) (0, [])
    .ok (if r.ungrouped = r then toString size else String.ofList group)

/-- What is read: the words left, and the word before them. -/
structure Reading where
  rest : List String
  before : String

abbrev Reader := StateT Reading (Except (Fault ⊕ String))

def fail {α : Type} (fault : Fault) : Reader α := throw (.inl fault)

def take : Reader String := do
  match ← get with
  | ⟨[], before⟩ => fail (.missing before)
  | ⟨word :: rest, _⟩ =>
    set (⟨rest, word⟩ : Reading)
    return word

/-- The next word, if it is among those given. -/
def take? (words : List String) : Reader (Option String) := do
  match (← get).rest with
  | word :: _ => if words.contains word then some <$> take else return none
  | [] => return none

def number (text : String) : Reader Int := do
  match whole? text with
  | some i => return i
  | none => fail .notWhole

/-- The value of an operator between two. What is not `needed` has no faults. -/
def applyBinary (needed : Bool) (operator left right : String) : Reader String := do
  let arithmetic (f : Int → Int → Int) : Reader String := do
    if !needed then return ""
    return toString (f (← number left) (← number right))
  let divide (f : Int → Int → Int) : Reader String := do
    if !needed then return ""
    let a ← number left
    let b ← number right
    if b = 0 then fail .divisionByZero
    return toString (f a b)
  let order : Ordering := match whole? left, whole? right with
    | some a, some b => compare a b
    | _, _ => compare left.toList right.toList
  let truth (holds : Bool) : Reader String := return if holds then "1" else "0"
  match operator with
  | "+" => arithmetic (· + ·)
  | "-" => arithmetic (· - ·)
  | "*" => arithmetic (· * ·)
  | "/" => divide Int.tdiv
  | "%" => divide Int.tmod
  | "<" => truth (order == .lt)
  | "<=" => truth (order != .gt)
  | "=" | "==" => truth (order == .eq)
  | "!=" => truth (order != .eq)
  | ">=" => truth (order != .lt)
  | ">" => truth (order == .gt)
  | _ =>
    match matchStart left right with
    | .ok value => return value
    | .error text => throw (.inr text)

/-- The operators of each level, those that bind most loosely first. -/
def operatorLevels : List (List String) :=
  [["|"], ["&"], ["<", "<=", "=", "==", "!=", ">=", ">"], ["+", "-"], ["*", "/", "%"], [":"]]

mutual

/-- An expression of a level and those that bind more tightly. -/
def level (needed : Bool) : Nat → List (List String) → Reader String
  | 0, _ => return ""
  | fuel + 1, levels =>
    match levels with
    | [] => primary needed fuel
    | operators :: tighter => do
      let left ← level needed fuel tighter
      chain needed fuel operators tighter left

def chain (needed : Bool) : Nat → List String → List (List String) → String → Reader String
  | 0, _, _, left => return left
  | fuel + 1, operators, tighter, left => do
    match ← take? operators with
    | none => return left
    | some operator =>
      let skips := (operator == "|" && !isNothing left) || (operator == "&" && isNothing left)
      let right ← level (needed && !skips) fuel tighter
      let value ← match operator with
        | "|" => pure (if !isNothing left then left else if isNothing right then "0" else right)
        | "&" => pure (if isNothing left || isNothing right then "0" else left)
        | operator => applyBinary needed operator left right
      chain needed fuel operators tighter value

/-- A word, an expression in parentheses, or a function of expressions. -/
def primary (needed : Bool) : Nat → Reader String
  | 0 => return ""
  | fuel + 1 => do
    match ← take with
    | "+" => take
    | "(" =>
      let value ← level needed fuel operatorLevels
      match ← get with
      | ⟨[], before⟩ => fail (.unclosed before)
      | ⟨")" :: rest, _⟩ =>
        set (⟨rest, ")"⟩ : Reading)
        return value
      | ⟨word :: _, _⟩ => throw (.inr ("syntax error: expecting ')' instead of " ++ quoteName word))
    | ")" => throw (.inr "syntax error: unexpected ')'")
    | "length" => return toString (← primary needed fuel).length
    | "match" =>
      let text ← primary needed fuel
      applyBinary needed ":" text (← primary needed fuel)
    | "index" =>
      let text ← primary needed fuel
      let among ← primary needed fuel
      return toString (((text.toList.findIdx? among.toList.contains).map (· + 1)).getD 0)
    | "substr" =>
      let text ← primary needed fuel
      let start ← primary needed fuel
      let count ← primary needed fuel
      return match whole? start, whole? count with
        | some start, some count =>
          if 0 < start then String.ofList ((text.toList.drop (start.toNat - 1)).take count.toNat) else ""
        | _, _ => ""
    | word => return word

end

def value (words : List String) : Except (Fault ⊕ String) String := do
  let (value, left) ← (level true (20 * words.length + 20) operatorLevels).run ⟨words, ""⟩
  match left.rest with
  | [] => return value
  | word :: _ => throw (.inl (.unexpected word))

end Expression

/-- Print the value of an expression; the status tells whether it counts as none. -/
def expr : Tool := orAbout "expr" fun s =>
  match if s.words.head? = some "--" then s.words.drop 1 else s.words with
  | [] => s.fail 2 ("missing operand\n" ++ helpHint s.name)
  | words =>
    match Expression.value words with
    | .ok value =>
      s.finish (if Expression.isNothing value then 1 else 0) [(.output, .ofText (value.toList ++ ['\n']))]
    | .error (.inl fault) => s.fail 2 fault.message
    | .error (.inr text) => s.fail 2 text

end PassTuner.Toolbox

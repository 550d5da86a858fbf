import PassTuner.Toolbox.Number
import PassTuner.Toolbox.Regex.Basic

/-! Reading regular expressions in the basic and the extended form.

In the basic form, brackets, bars and some repetitions are special behind a backslash, and signs in
places where they make no sense stand for themselves. An expression is read in two ways, which differ
where it makes little sense: to tell lines in which it is found from others, and to find its places
in a line. -/
namespace PassTuner.Toolbox.Regex

/-- How an expression is read. -/
structure Form where
  extended : Bool
  /-- letters count the same in both cases, and ranges of them are told by upper case -/
  folds : Bool
  /-- to find its places in a line -/
  places : Bool
  deriving DecidableEq, Repr

/-- What can be wrong with an expression. -/
inductive Mistake where
  | malformed
  | trailingBackslash
  | unmatchedOpening
  | unmatchedClosing
  | unmatchedBracket
  | unknownClass
  | invalidRange
  | invalidCollation
  | invalidInterval
  | unmatchedInterval
  | tooBig
  | invalidReference
  /-- seen only when all else is right: a class without its outer brackets, and an interval behind an
  anchor -/
  | lonelyClass
  | anchorInterval
  | anchorTooBig
  deriving DecidableEq, Repr

/-- Whether a mistake is seen only when all else is right. -/
def Mistake.isLate : Mistake → Bool
  | .lonelyClass | .anchorInterval | .anchorTooBig => true
  | _ => false

def Mistake.message : Mistake → String
  | .malformed => "Invalid regular expression"
  | .trailingBackslash => "Trailing backslash"
  | .unmatchedOpening => "Unmatched ( or \\("
  | .unmatchedClosing => "Unmatched ) or \\)"
  | .unmatchedBracket => "Unmatched [, [^, [:, [., or [="
  | .unknownClass => "Invalid character class name"
  | .invalidRange => "Invalid range end"
  | .invalidCollation => "Invalid collation character"
  | .invalidInterval => "Invalid content of \\\x7b\\\x7d"
  | .unmatchedInterval => "Unmatched \\\x7b"
  | .tooBig => "Regular expression too big"
  | .invalidReference => "Invalid back reference"
  | .lonelyClass => "character class syntax is [[:space:]], not [:space:]"
  | .anchorInterval => "invalid content of \\\x7b\\\x7d"
  | .anchorTooBig => "regular expression too big"

/-- How far reading has come: what is left, the number of groups opened, those closed, what is
strange, and mistakes that are seen only when all else is right. -/
structure Reading where
  rest : List Char
  groups : Nat
  closed : List Nat
  warnings : List String
  late : List Mistake

/-! Sets. -/

def classRanges? (name : String) : Option (List (Char × Char)) :=
  match name with
  | "alpha" => some [('A', 'Z'), ('a', 'z')]
  | "digit" => some [('0', '9')]
  | "alnum" => some [('A', 'Z'), ('a', 'z'), ('0', '9')]
  | "upper" => some [('A', 'Z')]
  | "lower" => some [('a', 'z')]
  | "space" => some [('\t', '\r'), (' ', ' ')]
  | "blank" => some [('\t', '\t'), (' ', ' ')]
  | "punct" => some [('!', '/'), (':', '@'), ('[', '\x60'), ('\x7b', '~')]
  | "print" => some [(' ', '~')]
  | "graph" => some [('!', '~')]
  | "cntrl" => some [('\x00', '\x1f'), ('\x7f', '\x7f')]
  | "xdigit" => some [('0', '9'), ('A', 'F'), ('a', 'f')]
  | _ => none

/-- The name between two signs and a bracket, and what follows. -/
def readNamed (sign : Char) (text : List Char) : Option (List Char × List Char) :=
  match text with
  | [] => none
  | c :: rest =>
    if c = sign ∧ rest.head? = some ']' then some ([], rest.drop 1)
    else (readNamed sign rest).map fun (name, rest) => (c :: name, rest)

/-- An element of a set: a class, or a character that may begin a range. -/
inductive Element where
  | ranges (ranges : List (Char × Char))
  | single (c : Char)

/-- An element at the start of a text that is not empty. -/
def readElement : List Char → Except Mistake (Element × List Char)
  | '[' :: ':' :: rest =>
    match readNamed ':' rest with
    | none => .error .unmatchedBracket
    | some (name, rest) =>
      match classRanges? (String.ofList name) with
      | some ranges => .ok (.ranges ranges, rest)
      | none => .error .unknownClass
  | '[' :: sign :: rest =>
    if sign = '=' ∨ sign = '.' then
      match readNamed sign rest with
      | none => .error .unmatchedBracket
      | some ([c], rest) => .ok (.single c, rest)
      | some _ => .error .invalidCollation
    else .ok (.single '[', sign :: rest)
  | c :: rest => .ok (.single c, rest)
  | [] => .error .unmatchedBracket

/-- A range between two characters; nothing, if they are the wrong way round. One of letters whose
cases count the same is put in upper case to find places, and is empty otherwise if only its upper
case is a range. -/
def Form.range? (f : Form) (lo hi : Char) : Option (Char × Char) :=
  let upper (c : Char) : Char := if f.folds then c.toUpper else c
  if upper hi < upper lo then none
  else if f.places then some (upper lo, upper hi)
  else some (lo, hi)

/-- The elements of a set up to its closing bracket. A bracket that comes first belongs to it. The
characters are counted down by `fuel`. -/
def readElements (f : Form) :
    Nat → (first : Bool) → List Char → Except Mistake (List (Char × Char) × List Char)
  | 0, _, _ => .error .unmatchedBracket
  | fuel + 1, first, text =>
    if text.isEmpty then .error .unmatchedBracket
    else if text.head? = some ']' && !first then .ok ([], text.drop 1)
    else if text.head? = some '-' && !first && (text.drop 1).head? != some ']' then
      if text.length = 1 then .error .unmatchedBracket else .error .invalidRange
    else do
      let (element, rest) ← readElement text
      match element, rest with
      | .ranges ranges, _ =>
        if rest.head? = some '-' && (rest.drop 1).head? != some ']' && 1 < rest.length then .error .invalidRange
        else do
          let (others, rest) ← readElements f fuel false rest
          .ok (ranges ++ others, rest)
      | .single lo, '-' :: rest =>
        if rest.head? = some ']' then do
          let (others, rest) ← readElements f fuel false ('-' :: rest)
          .ok ((lo, lo) :: others, rest)
        else do
          let (last, rest) ← readElement rest
          match last with
          | .ranges _ => .error .invalidRange
          | .single hi =>
            match f.range? lo hi with
            | none => .error .invalidRange
            | some range => do
              let (others, rest) ← readElements f fuel false rest
              .ok (range :: others, rest)
      | .single lo, rest => do
        let (others, rest) ← readElements f fuel false rest
        .ok ((lo, lo) :: others, rest)

/-- A set behind its opening bracket, and whether it looks like a class without its outer brackets. -/
def readSet (f : Form) (text : List Char) : Except Mistake (Regex × Bool × List Char) := do
  let (negated, body) := match text with
    | '^' :: rest => (true, rest)
    | rest => (false, rest)
  if body.isEmpty then throw .malformed
  let (ranges, rest) ← readElements f (body.length + 1) true body
  let written := body.take (body.length - rest.length - 1)
  let lonely := !negated && written.head? == some ':' && written.getLast? == some ':' && 2 < written.length
  .ok (.among negated ranges, lonely, rest)

/-! Repetitions. -/

def mostRepetitions : Nat := 32767

/-- What was read where an interval may stand: none, an interval and what follows, or a mistake. -/
inductive IntervalReading where
  | none
  | interval (least : Nat) (most : Option Nat) (rest : List Char)
  | mistake (m : Mistake)

/-- The signs up to a brace that closes an interval in the basic form; nothing if there is none. -/
def untilClosed : List Char → Option (List Char)
  | [] => Option.none
  | '\\' :: '\x7d' :: _ => some []
  | '\\' :: c :: rest => (untilClosed rest).map ('\\' :: c :: ·)
  | c :: rest => (untilClosed rest).map (c :: ·)

/-- Whether what stands in braces is given up before its end: a number that is none, and a comma. -/
def isGivenUp (text : List Char) : Bool :=
  let number := text.takeWhile (· != ',')
  number.length < text.length && !number.all Char.isDigit

/-- An interval behind its opening brace. One that is malformed stands for itself in the extended
form, and is a mistake in the basic form. -/
def readInterval (extended : Bool) (text : List Char) : IntervalReading :=
  let (first, rest) := spanDigits 10 text
  let (second, comma, rest) := match rest with
    | ',' :: rest =>
      let (digits, rest) := spanDigits 10 rest
      (digits, true, rest)
    | rest => ([], false, rest)
  let closed := match rest with
    | '\x7d' :: rest => if extended then some rest else Option.none
    | '\\' :: '\x7d' :: rest => if extended then Option.none else some rest
    | _ => Option.none
  let least := digitsIn 10 first
  let most := if !comma then some least else if second.isEmpty then Option.none else some (digitsIn 10 second)
  match closed with
  | Option.none =>
    if extended then .none
    else if (untilClosed text).isNone && !isGivenUp text then .mistake .unmatchedInterval
    else .mistake .invalidInterval
  | some rest =>
    if first.isEmpty && !comma then .mistake .invalidInterval
    else if most.any fun n => decide (n < least) then .mistake .invalidInterval
    else if mostRepetitions < most.getD least then .mistake .tooBig
    else .interval least most rest

/-- A repetition at the start of a text, and what follows. -/
def readRepetition (extended : Bool) (text : List Char) : IntervalReading :=
  match text with
  | '*' :: rest => .interval 0 Option.none rest
  | '\\' :: c :: rest =>
    if extended then .none
    else if c = '+' then .interval 1 Option.none rest
    else if c = '?' then .interval 0 (some 1) rest
    else if c = '\x7b' then readInterval false rest
    else .none
  | c :: rest =>
    if !extended then .none
    else if c = '+' then .interval 1 Option.none rest
    else if c = '?' then .interval 0 (some 1) rest
    else if c = '\x7b' then readInterval true rest
    else .none
  | [] => .none

def isAnchor : Regex → Bool
  | .lineStart | .lineEnd | .wordStart | .wordEnd | .wordEdge | .insideWord => true
  | _ => false

/-- An atom with all repetitions behind it, and perhaps a late mistake. The characters are counted
down by `fuel`. -/
def repeatAtom (extended : Bool) :
    Nat → Regex → List Char → Except Mistake (Regex × List Mistake × List Char)
  | 0, atom, text => .ok (atom, [], text)
  | fuel + 1, atom, text =>
    match readRepetition extended text with
    | .none => .ok (atom, [], text)
    | .interval least most rest => repeatAtom extended fuel (.repeated atom least most) rest
    | .mistake m =>
      if !isAnchor atom then .error m
      else if m = .tooBig then .ok (atom, [.anchorTooBig], text)
      else if extended then .ok (atom, [], text)
      else .ok (atom, [.anchorInterval], [])

/-! Expressions. -/

/-- What a text begins with. -/
inductive Sign where
  | finish
  | bar (rest : List Char)
  | opening (rest : List Char)
  | closing (rest : List Char)
  | other (c : Char) (rest : List Char)
  | escaped (c : Char) (rest : List Char)
  | backslash

def readSign? (extended : Bool) : List Char → Sign
  | [] => .finish
  | ['\\'] => .backslash
  | '\\' :: c :: rest =>
    if extended then .escaped c rest
    else if c = '|' then .bar rest
    else if c = '(' then .opening rest
    else if c = ')' then .closing rest
    else .escaped c rest
  | c :: rest =>
    if !extended then .other c rest
    else if c = '|' then .bar rest
    else if c = '(' then .opening rest
    else if c = ')' then .closing rest
    else .other c rest

def escapedAtom (c : Char) : Regex :=
  let word : List (Char × Char) := [('A', 'Z'), ('a', 'z'), ('0', '9'), ('_', '_')]
  let space : List (Char × Char) := [('\t', '\r'), (' ', ' ')]
  match c with
  | 'w' => .among false word
  | 'W' => .among true word
  | 's' => .among false space
  | 'S' => .among true space
  | 'b' => .wordEdge
  | 'B' => .insideWord
  | '<' => .wordStart
  | '>' => .wordEnd
  | '\x60' => .lineStart
  | '\'' => .lineEnd
  | c => .literal c

/-- Whether a dollar sign stands at the end of an expression. -/
def atEnd (extended : Bool) (rest : List Char) : Bool :=
  extended || rest.isEmpty || rest.take 2 == ['\\', ')'] || rest.take 2 == ['\\', '|']

/-- A sign that repeats where there is nothing to repeat: how it is called, whether it counts as
something to repeat, and what follows. -/
def idleRepetition? (text : List Char) : Option (String × Bool × List Char) :=
  match readRepetition true text with
  | .interval _ _ rest =>
    if text.head? = some '\x7b' then some ("\x7b...\x7d", true, rest)
    else some (String.ofList (text.take 1), false, rest)
  | _ => none

/-- What is strange about a sign that repeats where there is nothing to repeat. -/
def idleWarning (name : String) : String := name ++ " at start of expression"

/-- An anchor with the repetitions behind it, each of which is strange, until one of them counts as
something; whether none did; and what is strange. The characters are counted down by `fuel`. -/
def repeatAnchor : Nat → Regex → List Char → Regex × Bool × List String × List Char
  | 0, atom, text => (atom, true, [], text)
  | fuel + 1, atom, text =>
    match idleRepetition? text, readRepetition true text with
    | some (name, true, rest), .interval least most _ => (.repeated atom least most, false, [idleWarning name], rest)
    | some (name, false, rest), .interval least most _ =>
      let (atom, start, warnings, rest) := repeatAnchor fuel (.repeated atom least most) rest
      (atom, start, idleWarning name :: warnings, rest)
    | _, _ => (atom, true, [], text)

mutual

/-- Alternatives, up to the end or to a bracket that closes a group. Groups are read one into
another `fuel` deep at most. -/
def readAlternatives (f : Form) : Nat → (inGroup : Bool) → Reading → Except Mistake (Regex × Reading)
  | 0, _, _ => .error .tooBig
  | fuel + 1, inGroup, r => do
    let (first, r) ← readParts f fuel inGroup true true r
    match readSign? f.extended r.rest with
    | .bar rest =>
      let (second, r) ← readAlternatives f fuel inGroup { r with rest }
      .ok (.either first second, r)
    | _ => .ok (first, r)

/-- The parts of one alternative. Nothing stands in front of the next part if it is `fresh`, and
nothing but anchors if it is `atStart`. -/
def readParts (f : Form) :
    Nat → (inGroup fresh atStart : Bool) → Reading → Except Mistake (Regex × Reading)
  | 0, _, _, _, _ => .error .tooBig
  | fuel + 1, inGroup, fresh, atStart, r =>
    let go (atom : Regex) (start : Bool) (r : Reading) : Except Mistake (Regex × Reading) := do
      if isAnchor atom && start then
        let (atom, start, warnings, rest) := if f.extended && !f.places then repeatAnchor r.rest.length atom r.rest
          else (atom, start, [], r.rest)
        let r := { r with rest, warnings := r.warnings ++ warnings }
        let (atom, late, rest) ← if start then .ok (atom, [], r.rest)
          else repeatAtom f.extended r.rest.length atom r.rest
        let (others, r) ← readParts f fuel inGroup false start { r with rest, late := r.late ++ late }
        .ok (.sequence atom others, r)
      else
        let (atom, late, rest) ← repeatAtom f.extended r.rest.length atom r.rest
        let (others, r) ← readParts f fuel inGroup false start { r with rest, late := r.late ++ late }
        .ok (.sequence atom others, r)
    match readSign? f.extended r.rest with
    | .finish | .bar _ => .ok (.empty, r)
    | .backslash => .error .trailingBackslash
    | .closing rest =>
      if inGroup then .ok (.empty, r)
      else if f.extended then go (.literal ')') false { r with rest }
      else .error .unmatchedClosing
    | .opening rest => do
      let number := r.groups + 1
      let (body, r) ← readAlternatives f fuel true { r with rest, groups := number }
      match readSign? f.extended r.rest with
      | .closing rest => go (.group number body) false { r with rest, closed := number :: r.closed }
      | _ => .error .unmatchedOpening
    | .escaped c rest =>
      if '1' ≤ c ∧ c ≤ '9' then
        let number := c.toNat - '0'.toNat
        if r.closed.contains number then go (.again number) false { r with rest }
        else .error .invalidReference
      else if atStart && !f.extended && (c == '+' || c == '?' || c == '\x7b') then
        go (.literal c) false { r with rest }
      else
        let atom := escapedAtom c
        go atom (atStart && isAnchor atom) { r with rest }
    | .other c rest =>
      if c = '^' ∧ (f.extended ∨ fresh) then go .lineStart atStart { r with rest }
      else if c = '$' ∧ atEnd f.extended rest then go .lineEnd atStart { r with rest }
      else if c = '.' then go .any false { r with rest }
      else if c = '[' then do
        let (set, lonely, rest) ← readSet f rest
        go set false { r with rest, late := r.late ++ if lonely then [.lonelyClass] else [] }
      else if atStart && f.extended && f.places && ['*', '+', '?', '\x7b'].contains c then
        readParts f fuel inGroup false true { r with rest }
      else if atStart && f.extended then
        match idleRepetition? (c :: rest) with
        | some (name, counts, rest) =>
          let r := { r with rest, warnings := r.warnings ++ [idleWarning name] }
          if counts then go .empty false r else readParts f fuel inGroup false true r
        | none => go (.literal c) false { r with rest }
      else go (.literal c) false { r with rest }

end

def refersBack : Regex → Bool
  | .again _ => true
  | .sequence first second | .either first second => first.refersBack || second.refersBack
  | .repeated body _ _ | .group _ body => body.refersBack
  | _ => false

/-- The same without groups. -/
def ungrouped : Regex → Regex
  | .group _ body => body.ungrouped
  | .sequence first second => .sequence first.ungrouped second.ungrouped
  | .either first second => .either first.ungrouped second.ungrouped
  | .repeated body least most => .repeated body.ungrouped least most
  | r => r

/-- The expression of a text with its groups, and what is strange about it. -/
def readGrouped (f : Form) (text : List Char) : Except Mistake (Regex × List String) := do
  let (r, left) ← readAlternatives f (2 * text.length + 2) false ⟨text, 0, [], [], []⟩
  match left.late with
  | mistake :: _ => .error mistake
  | [] => .ok (r, left.warnings)

/-- The expression of a text, and what is strange about it. Groups are kept only if something
refers to them. -/
def read (f : Form) (text : List Char) : Except Mistake (Regex × List String) := do
  let (r, warnings) ← readGrouped f text
  return (if r.refersBack then r else r.ungrouped, warnings)

def fixed (text : List Char) : Regex := sequenceAll (text.map literal)

end PassTuner.Toolbox.Regex

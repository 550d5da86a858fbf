import PassTuner.Files

/-! Patterns for names and texts. -/
namespace PassTuner.Toolbox.Shell

/-- What stands for one character, or for any number of them. -/
inductive Element where
  | char (c : Char)
  | one
  | many
  | oneOf (inverted : Bool) (ranges : List (Char × Char)) (classes : List String)
  deriving DecidableEq, Repr

/-- Classes of characters, by name. -/
def isInClass (name : String) (c : Char) : Bool :=
  let isVisible := decide (0x20 < c.toNat) && decide (c.toNat < 0x7f)
  match name with
  | "alnum" => c.isAlphanum
  | "alpha" => c.isAlpha
  | "blank" => c == ' ' || c == '\t'
  | "cntrl" => decide (c.toNat < 0x20) || c.toNat == 0x7f
  | "digit" => c.isDigit
  | "graph" => isVisible
  | "lower" => c.isLower
  | "print" => isVisible || c == ' '
  | "punct" => isVisible && !c.isAlphanum
  | "space" => c == ' ' || (decide (9 ≤ c.toNat) && decide (c.toNat ≤ 13))
  | "upper" => c.isUpper
  | "xdigit" => c.isDigit || ('a' ≤ c.toLower && c.toLower ≤ 'f')
  | _ => false

def classNames : List String :=
  ["alnum", "alpha", "blank", "cntrl", "digit", "graph", "lower", "print", "punct", "space", "upper", "xdigit"]

/-- A class at the start of a text, behind its bracket, and what follows. -/
def readClass? (text : List Char) : Option (String × List Char) :=
  classNames.findSome? fun name =>
    let written := ':' :: name.toList ++ [':', ']']
    if written.isPrefixOf text then some (name, text.drop written.length) else none

/-- The ranges and classes up to a closing bracket, and what follows. A bracket that comes first
does not close. -/
def readRanges : Nat → Bool → List Char → Option (List (Char × Char) × List String × List Char)
  | 0, _, _ => none
  | _ + 1, _, [] => none
  | fuel + 1, isFirst, c :: rest =>
    if c = ']' ∧ !isFirst then some ([], [], rest)
    else match if c = '[' then readClass? rest else none with
      | some (name, rest) => do
        let (ranges, classes, rest) ← readRanges fuel false rest
        some (ranges, name :: classes, rest)
      | none => do
        let (c, rest) ← match c, rest with
          | '\\', d :: rest => some (d, rest)
          | '\\', [] => none
          | c, rest => some (c, rest)
        let (last, rest) ← match rest with
          | '-' :: d :: more =>
            if d = ']' then some (c, rest)
            else if d = '\\' then match more with
              | e :: more => some (e, more)
              | [] => none
            else some (d, more)
          | rest => some (c, rest)
        let (ranges, classes, rest) ← readRanges fuel false rest
        some ((c, last) :: ranges, classes, rest)

/-- The elements of a pattern. A backslash takes the meaning from what follows it. -/
def readPattern : Nat → List Char → List Element
  | 0, _ => []
  | _ + 1, [] => []
  | fuel + 1, c :: rest =>
    match c, rest with
    | '\\', d :: rest => .char d :: readPattern fuel rest
    | '?', rest => .one :: readPattern fuel rest
    | '*', rest => .many :: readPattern fuel rest
    | '[', rest =>
      let inverted := rest.head? == some '!'
      match readRanges (rest.length + 1) true (if inverted then rest.drop 1 else rest) with
      | some (ranges, classes, after) => .oneOf inverted ranges classes :: readPattern fuel after
      | none => .char c :: readPattern fuel rest
    | c, rest => .char c :: readPattern fuel rest

def Element.accepts (e : Element) (c : Char) : Bool :=
  match e with
  | .char d => c == d
  | .one | .many => true
  | .oneOf inverted ranges classes =>
    ((ranges.any fun (first, last) => decide (first ≤ c) && decide (c ≤ last)) ||
      classes.any (isInClass · c)) != inverted

def matchElements : List Element → List Char → Bool
  | [], text => text.isEmpty
  | .many :: rest, text => (List.range (text.length + 1)).any fun n => matchElements rest (text.drop n)
  | e :: rest, text =>
    match text with
    | [] => false
    | c :: text => e.accepts c && matchElements rest text

def matchesPattern (pattern text : List Char) : Bool :=
  matchElements (readPattern (pattern.length + 1) pattern) text

/-- Where to part a text, so that a pattern matches what is in front or behind; the place nearest to the
start that does, or to the end. -/
def partAt? (elements : List Element) (isBehind nearStart : Bool) (text : List Char) : Option Nat :=
  let places := List.range (text.length + 1)
  (if nearStart then places else places.reverse).find? fun n =>
    matchElements elements (if isBehind then text.drop n else text.take n)

/-- Texts beside each other without what a pattern matches at the end or the start of them. At the start only
the first counts, which takes the others along if the longest match is all of it. At the end all that
stands behind a match goes, and the longest one begins in the first. -/
def trimmed (atEnd longest : Bool) (pattern : List Char) (texts : List (List Char)) : List (List Char) :=
  let elements := readPattern (pattern.length + 1) pattern
  match atEnd, longest, texts with
  | _, _, [] => []
  | false, false, text :: rest =>
    ((partAt? elements false true text).elim text text.drop) :: rest
  | false, true, text :: rest =>
    if !rest.isEmpty && matchElements elements text then [[]]
    else ((partAt? elements false false text).elim text text.drop) :: rest
  | true, true, text :: rest =>
    match partAt? elements true true text with
    | some n => [text.take n]
    | none => text :: rest
  | true, false, texts =>
    let behind := texts.reverse.dropWhile fun text => (partAt? elements true false text).isNone
    match behind with
    | text :: rest => (text.take ((partAt? elements true false text).getD text.length) :: rest).reverse
    | [] => texts

/-! ### Names of files -/

/-- Whether a pattern can match something else than itself. -/
def isOpenPattern : List Char → Bool
  | [] => false
  | '\\' :: rest => isOpenPattern (rest.drop 1)
  | '*' :: _ | '?' :: _ => true
  | '[' :: rest => rest.contains ']' || isOpenPattern rest
  | _ :: rest => isOpenPattern rest
termination_by text => text.length
decreasing_by all_goals (simp; try omega)

/-- The text that a pattern without open places stands for. -/
def literalText : List Char → List Char
  | [] => []
  | '\\' :: c :: rest => c :: literalText rest
  | c :: rest => c :: literalText rest

def splitPath : List Char → List (List Char)
  | [] => [[]]
  | c :: rest =>
    match splitPath rest with
    | first :: others => if c = '/' then [] :: first :: others else (c :: first) :: others
    | [] => [[c]]

/-- The paths that match a pattern, given in parts, behind paths that are there. -/
def matchParts (files : Files) (directory : Place) : List (List Char) → List (List Char) → List (List Char)
  | [], found => found
  | part :: rest, found =>
    let last := rest.isEmpty
    let next := found.flatMap fun start =>
      if isOpenPattern part then
        let place? := if start.isEmpty then .ok directory else files.locate directory (String.ofList start)
        match place? with
        | .error _ => []
        | .ok place =>
          if !files.isDirectory place then []
          else
            let names := (files.namesIn place).map String.toList
            let names := if part.head? = some '.' then ['.'] :: ['.', '.'] :: names
              else names.filter fun name => name.head? != some '.'
            (names.filter (matchesPattern part)).map fun name => start ++ name ++ if last then [] else ['/']
      else
        let path := start ++ literalText part ++ if last then [] else ['/']
        if (files.find directory (String.ofList path)).isOk then [path] else []
    matchParts files directory rest next

/-- The paths of files that match a pattern, in order. -/
def matchPaths (files : Files) (directory : Place) (pattern : List Char) : List String :=
  if !isOpenPattern pattern then []
  else
    let found := (matchParts files directory (splitPath pattern) [[]]).map String.ofList
    found.mergeSort (fun a b => decide (a ≤ b))

end PassTuner.Toolbox.Shell

/-! Regular expressions over bytes, and where they match in a line.

Positions in a line are numbered from zero on; the last lies behind its last byte. A set of
positions is held as the bits of a number. -/
namespace PassTuner.Toolbox

inductive Regex where
  | empty
  | any
  /-- one byte that lies in one of the ranges, or in none of them -/
  | among (negated : Bool) (ranges : List (Char × Char))
  | sequence (first second : Regex)
  | either (first second : Regex)
  /-- so many times at least, and at most, if there is a bound -/
  | repeated (body : Regex) (least : Nat) (most : Option Nat)
  /-- what it matches is remembered under a number -/
  | group (number : Nat) (body : Regex)
  /-- what a group has matched -/
  | again (number : Nat)
  | lineStart
  | lineEnd
  | wordStart
  | wordEnd
  | wordEdge
  | insideWord
  deriving DecidableEq, Repr, Inhabited

namespace Regex

def literal (c : Char) : Regex := .among false [(c, c)]

def sequenceAll (parts : List Regex) : Regex := parts.foldr .sequence .empty

/-- A line, and whether letters count the same in both cases. -/
structure Subject where
  line : Array Char
  folds : Bool

/-- What groups have matched. -/
abbrev Captures := List (Nat × List Char)

/-- Positions that were reached, apart for each way in which groups have matched. -/
abbrev Front := List (Captures × Nat)

namespace Front

def add (front : Front) (captures : Captures) (positions : Nat) : Front :=
  match front with
  | [] => [(captures, positions)]
  | (own, there) :: rest =>
    if own = captures then (own, there ||| positions) :: rest
    else (own, there) :: add rest captures positions

def union (a b : Front) : Front := b.foldl (fun front (captures, positions) => front.add captures positions) a

/-- The positions that are not in another front. -/
def without (a b : Front) : Front :=
  (a.map fun (captures, positions) =>
    (captures, positions &&& (positions ^^^ ((b.lookup captures).getD 0 &&& positions)))).filter
      fun reached => reached.2 != 0

/-- All positions, however they were reached. -/
def positions (front : Front) : Nat := front.foldl (fun all reached => all ||| reached.2) 0

def move (front : Front) (step : Nat → Nat) : Front :=
  (front.map fun (captures, positions) => (captures, step positions)).filter fun reached => reached.2 != 0

end Front

namespace Subject

def size (s : Subject) : Nat := s.line.size

def positionsWith (s : Subject) (holds : Nat → Bool) : Nat :=
  (List.range (s.size + 1)).foldl (fun all i => if holds i then all ||| 1 <<< i else all) 0

def isWordByte (c : Char) : Bool := c.isAlphanum || c == '_'

/-- Whether a byte of a word stands in a position, or in front of it. -/
def wordAt (s : Subject) (i : Nat) : Bool := (s.line[i]?).any isWordByte

def wordBefore (s : Subject) (i : Nat) : Bool := decide (0 < i) && s.wordAt (i - 1)

/-- Whether a byte lies in ranges, in either case if cases count the same. -/
def accepts (s : Subject) (negated : Bool) (ranges : List (Char × Char)) (c : Char) : Bool :=
  let lies (c : Char) : Bool := ranges.any fun (lo, hi) => decide (lo ≤ c) && decide (c ≤ hi)
  (lies c || (s.folds && (lies c.toLower || lies c.toUpper))) != negated

def bytesWith (s : Subject) (holds : Char → Bool) : Nat :=
  s.positionsWith fun i => (s.line[i]?).any holds

def slice (s : Subject) (first last : Nat) : List Char := (s.line.extract first last).toList

def standsAt (s : Subject) (text : List Char) (i : Nat) : Bool :=
  let there := s.slice i (i + text.length)
  there == text || (s.folds && there.map Char.toLower == text.map Char.toLower)

def single (s : Subject) (positions : Nat) : List Nat :=
  (List.range (s.size + 1)).filter fun i => positions.testBit i

end Subject

/-- Repeat a step until nothing new is reached, or so many times. -/
def spread (step : Front → Front) : Nat → Front → Front → Front
  | 0, _, all => all
  | fuel + 1, frontier, all =>
    let next := (step frontier).without all
    if next.isEmpty then all else spread step fuel next (all.union next)

/-- Repeat a step so many times, as long as anything is reached. -/
def iterate (step : Front → Front) : Nat → Front → Front
  | 0, front => front
  | n + 1, front => if front.isEmpty then front else iterate step n (step front)

def after (s : Subject) : Regex → Front → Front
  | .empty, front => front
  | .any, front => front.move fun positions => (positions &&& (1 <<< s.size - 1)) <<< 1
  | .among negated ranges, front =>
    let there := s.bytesWith (s.accepts negated ranges)
    front.move fun positions => (positions &&& there) <<< 1
  | .sequence first second, front => second.after s (first.after s front)
  | .either first second, front => (first.after s front).union (second.after s front)
  | .repeated body least most, front =>
    let start := iterate (body.after s) least front
    match most with
    | some most => spread (body.after s) (min (most - least) (s.size + 1)) start start
    | none => spread (body.after s) (s.size + 1) start start
  | .group number body, front =>
    front.foldl (fun all (captures, positions) =>
      (s.single positions).foldl (fun all i =>
        (body.after s [(captures, 1 <<< i)]).foldl (fun all (captures, ends) =>
          (s.single ends).foldl (fun all j =>
            all.add ((number, s.slice i j) :: captures.filter fun own => own.1 != number) (1 <<< j)) all) all) all) []
  | .again number, front =>
    (front.map fun (captures, positions) =>
      match captures.lookup number with
      | some text =>
        (captures, ((s.single positions).filter (s.standsAt text)).foldl
          (fun all i => all ||| 1 <<< (i + text.length)) 0)
      | none => (captures, 0)).filter fun reached => reached.2 != 0
  | .lineStart, front => front.move fun positions => positions &&& 1
  | .lineEnd, front => front.move fun positions => positions &&& 1 <<< s.size
  | .wordStart, front => front.move fun positions =>
      positions &&& s.positionsWith fun i => !s.wordBefore i && s.wordAt i
  | .wordEnd, front => front.move fun positions =>
      positions &&& s.positionsWith fun i => s.wordBefore i && !s.wordAt i
  | .wordEdge, front => front.move fun positions =>
      positions &&& s.positionsWith fun i => s.wordBefore i != s.wordAt i
  | .insideWord, front => front.move fun positions =>
      positions &&& s.positionsWith fun i => s.wordBefore i == s.wordAt i

/-- How the line around a match must look. -/
inductive Bounds where
  | anywhere
  /-- no byte of a word next to it -/
  | words
  /-- nothing next to it -/
  | line
  deriving DecidableEq, Repr

def Bounds.allow (b : Bounds) (s : Subject) (first last : Nat) : Bool :=
  match b with
  | .anywhere => true
  | .words => !s.wordBefore first && !s.wordAt last
  | .line => first == 0 && last == s.size

def longestAt? (r : Regex) (s : Subject) (b : Bounds) (first : Nat) : Option Nat :=
  ((s.single (r.after s [([], 1 <<< first)]).positions).filter (b.allow s first)).getLast?

def isFound (r : Regex) (s : Subject) (b : Bounds) : Bool :=
  if b = .anywhere then (r.after s [([], 1 <<< (s.size + 1) - 1)]).positions != 0
  else (List.range (s.size + 1)).any fun first => (r.longestAt? s b first).isSome

/-- The matches of a line that are not empty, from left to right, each the longest at the first
place where there is one. The positions are counted down by `fuel`. -/
def matches? (r : Regex) (s : Subject) (b : Bounds) : Nat → Nat → List (Nat × Nat)
  | 0, _ => []
  | fuel + 1, first =>
    match r.longestAt? s b first with
    | some last =>
      if first < last then (first, last) :: r.matches? s b fuel last else r.matches? s b fuel (first + 1)
    | none => if s.size ≤ first then [] else r.matches? s b fuel (first + 1)

end Regex

end PassTuner.Toolbox

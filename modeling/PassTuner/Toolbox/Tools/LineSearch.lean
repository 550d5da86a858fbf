import PassTuner.Toolbox.Regex.Reader
import PassTuner.Toolbox.Tools.Copying

/-! Searching lines for patterns, and what is printed of them. -/
namespace PassTuner.Toolbox

open Text (Stream)

/-- How a text with zero bytes is taken: as any other; as one in which they end lines, and no line is
shown; or as one in which nothing is found. -/
inductive Binaries where
  | asText
  | unshown
  | skipped
  deriving DecidableEq, Repr

/-- What is searched for, and what is printed of it. -/
structure LineSearch where
  pattern : Option Regex
  /-- the same, read to find its places -/
  places : Option Regex
  bounds : Regex.Bounds
  folds : Bool
  inverted : Bool
  most : Option Nat
  /-- the kind of output: matches, lines, a count, names, or nothing -/
  matchesOnly : Bool
  counts : Bool
  namesWith : Bool
  namesWithout : Bool
  quiet : Bool
  numbers : Bool
  offsets : Bool
  named : Bool
  /-- names are ended by zero bytes -/
  zeroNames : Bool
  /-- numbers are brought to a width, and lines begin at a tab stop -/
  tabbed : Bool
  /-- what stands out is put between marks for terminals -/
  colored : Bool
  /-- how a text is taken that is not one of lines -/
  binaries : Binaries
  /-- what ends lines -/
  lineEnd : Char
  before : Nat
  behind : Nat
  /-- groups of lines are kept apart -/
  grouped : Bool
  /-- what stands between groups, if anything -/
  separator : Option String

namespace LineSearch

/-- A search for a pattern that prints lines and nothing else. -/
def plain : LineSearch where
  pattern := none
  places := none
  bounds := .anywhere
  folds := false
  inverted := false
  most := none
  matchesOnly := false
  counts := false
  namesWith := false
  namesWithout := false
  quiet := false
  numbers := false
  offsets := false
  named := false
  zeroNames := false
  tabbed := false
  colored := false
  binaries := .unshown
  lineEnd := '\n'
  before := 0
  behind := 0
  grouped := false
  separator := some "--"

def selects (g : LineSearch) (line : List Char) : Bool :=
  (g.pattern.any fun r => r.isFound ⟨line.toArray, g.folds⟩ g.bounds) != g.inverted

/-- A line of a text: its number, its offset and its bytes without the end. -/
structure Numbered where
  number : Nat
  offset : Nat
  body : List Char
  selected : Bool

/-- The lines of a text, with those selected, up to the greatest number of them. Behind it no line
is selected. -/
def mark (g : LineSearch) : (number offset : Nat) → (left : Option Nat) → List (List Char) → List Numbered
  | _, _, _, [] => []
  | number, offset, left, line :: rest =>
    let body := dropMark g.lineEnd line
    let selected := left != some 0 && g.selects body
    ⟨number, offset, body, selected⟩ ::
      g.mark (number + 1) (offset + line.length) (if selected then left.map (· - 1) else left) rest

/-- The line numbers that are printed: those selected, and their surroundings. With a greatest
number of lines, surroundings behind the last reach as far as to the next that would be selected. -/
def isShown (g : LineSearch) (lines : List Numbered) (line : Numbered) : Bool :=
  lines.any fun other => other.selected &&
    decide (other.number ≤ line.number + g.before) && decide (line.number ≤ other.number + g.behind)

/-- A text between the marks of a color, if it is to stand out. -/
def stress (g : LineSearch) (color : String) (text : List Char) : List Char :=
  if g.colored then
    '\x1b' :: '[' :: color.toList ++ ['m', '\x1b', '[', 'K'] ++ text ++ ['\x1b', '[', 'm', '\x1b', '[', 'K']
  else text

def stressMark (g : LineSearch) (text : List Char) : List Char := g.stress "36" text

/-- The name of a text, and what stands behind it. -/
def nameLead (g : LineSearch) (name : String) (mark : Char) : List Char :=
  if g.named then
    g.stress "35" name.toList ++ if g.zeroNames then [Char.ofNat 0] else g.stressMark [mark]
  else []

def numberWidth : Nat := 19

/-- What stands in front of a line: its file, its number and its offset, as far as asked for. What
comes first of all has no width. -/
def lead (g : LineSearch) (first : Bool) (name : String) (mark : Char) (number offset : Nat) (isEmpty : Bool) :
    List Char :=
  let amount (first : Bool) (n : Nat) : List Char :=
    g.stress "32" (aligned (if g.tabbed && !first then numberWidth else 0) n) ++ g.stressMark [mark]
  g.nameLead name mark ++
    (if g.numbers then amount (first && !g.named) number else []) ++
    (if g.offsets then amount (first && !g.named && !g.numbers) offset else []) ++
    (if g.tabbed && (g.named || g.numbers || g.offsets) && !isEmpty then ['\t'] else [])

def placesIn (g : LineSearch) (body : List Char) : List (Nat × Nat) :=
  match g.places with
  | none => []
  | some r => r.matches? ⟨body.toArray, g.folds⟩ g.bounds (2 * body.length + 2) 0

def stressPlaces (g : LineSearch) (body : List Char) : List Char :=
  let (reached, shown) := (g.placesIn body).foldl (fun (reached, shown) (i, j) =>
    (j, shown ++ (body.drop reached).take (i - reached) ++ g.stress "01;31" ((body.drop i).take (j - i)))) (0, [])
  shown ++ body.drop reached

/-- A line as it is printed; `first` if nothing was printed before. -/
def shownLine (g : LineSearch) (name : String) (first : Bool) (line : Numbered) : List Char :=
  let mark := if line.selected then ':' else '-'
  let found := line.selected != g.inverted
  if g.matchesOnly then
    if !found then []
    else
      (g.placesIn line.body).zipIdx.flatMap fun ((i, j), n) =>
        g.lead (first && n == 0) name mark line.number (line.offset + i) false ++
          g.stress "01;31" ((line.body.drop i).take (j - i)) ++ [g.lineEnd]
  else
    g.lead first name mark line.number line.offset line.body.isEmpty ++
      (if g.colored && found then g.stressPlaces line.body else line.body) ++ [g.lineEnd]

/-- Lines as they are printed, with a mark between groups that do not touch. -/
def showAll (g : LineSearch) (name : String) : (first : Bool) → Option Nat → List Numbered → List Char
  | _, _, [] => []
  | first, last, line :: rest =>
    let apart := g.grouped && !g.matchesOnly && last.any fun n => decide (n + 1 < line.number)
    let between := match g.separator with
      | some text => if apart then g.stressMark text.toList ++ ['\n'] else []
      | none => []
    between ++ g.shownLine name first line ++ g.showAll name false (some line.number) rest

/-- What a text comes to: the number of lines selected, what is printed, and whether that is kept
back because the text is not one of lines. -/
def run (g : LineSearch) (name : String) (first : Bool) (text : List Char) : Nat × List Char × Bool :=
  let zero := Char.ofNat 0
  let isBinary := text.contains zero && g.binaries != .asText && g.lineEnd != zero
  let searched := if !isBinary then text
    else if g.binaries = .skipped then []
    else text.map fun c => if c = zero then '\n' else c
  let lines := g.mark 1 0 g.most (linesEndingIn g.lineEnd searched)
  let count := lines.countP Numbered.selected
  let showsLines := !(g.quiet || g.namesWith || g.namesWithout || g.counts)
  let title := g.stress "35" name.toList ++ [if g.zeroNames then zero else '\n']
  let printed :=
    if g.quiet then []
    else if g.namesWith then if 0 < count then title else []
    else if g.namesWithout then if count = 0 then title else []
    else if g.counts then g.nameLead name ':' ++ (toString count).toList ++ ['\n']
    else if isBinary then []
    else
      let shown := if g.before = 0 && g.behind = 0 then lines.filter Numbered.selected
        else lines.filter (g.isShown lines)
      let shown := if g.most.isSome then
          let last := ((lines.filter Numbered.selected).getLast?.map Numbered.number).getD 0
          shown.filter fun line => line.number ≤ last || !g.selects line.body || line.selected
        else shown
      g.showAll name first none shown
  (count, printed, showsLines && isBinary && 0 < count)

end LineSearch

end PassTuner.Toolbox

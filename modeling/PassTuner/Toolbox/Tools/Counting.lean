import PassTuner.Toolbox.Tools.Copying

/-! Counting lines, words and bytes. -/
namespace PassTuner.Toolbox

open Text (Stream)

/-- The counts of a text, each byte being one character. -/
structure Counts where
  lines : Nat
  words : Nat
  bytes : Nat
  /-- the columns of the longest line -/
  longest : Nat
  deriving DecidableEq, Repr

/-- Counts so far, whether a word is being read, and the columns of the line. -/
structure Counting where
  counts : Counts
  inWord : Bool
  column : Nat

namespace Counting

def start : Counting := ⟨⟨0, 0, 0, 0⟩, false, 0⟩

def endWord (s : Counting) : Counting :=
  { s with counts.words := s.counts.words + (if s.inWord then 1 else 0), inWord := false }

def endLine (s : Counting) : Counting :=
  { s.endWord with counts.longest := max s.counts.longest s.column, column := 0 }

/-- Take up a byte. Those that are not printable belong to no word and have no column. -/
def take (s : Counting) (c : Char) : Counting :=
  let s := { s with counts.bytes := s.counts.bytes + 1 }
  if c = '\n' then { s with counts.lines := s.counts.lines + 1 }.endLine
  else if c = '\r' ∨ c = '\x0c' then s.endLine
  else if c = '\t' then { s.endWord with column := s.column + (8 - s.column % 8) }
  else if c = ' ' then { s.endWord with column := s.column + 1 }
  else if c = '\x0b' then s.endWord
  else if 0x21 ≤ c.toNat ∧ c.toNat < 0x7f then { s with inWord := true, column := s.column + 1 }
  else s

end Counting

def countText (text : List Char) : Counts := (text.foldl Counting.take Counting.start).endLine.counts

namespace Counts

def zero : Counts := ⟨0, 0, 0, 0⟩

def add (a b : Counts) : Counts :=
  ⟨a.lines + b.lines, a.words + b.words, a.bytes + b.bytes, max a.longest b.longest⟩

/-- The counts that are asked for, in the order in which they are printed. -/
def chosen (keys : List String) (n : Counts) : List Nat :=
  let keys := if keys.isEmpty then ["l", "w", "c"] else keys
  (if keys.contains "l" then [n.lines] else []) ++ (if keys.contains "w" then [n.words] else []) ++
    (if keys.contains "m" then [n.bytes] else []) ++ (if keys.contains "c" then [n.bytes] else []) ++
    (if keys.contains "L" then [n.longest] else [])

end Counts

def countKeys : List String := ["l", "w", "m", "c", "L"]

def wcOptions : List KnownOption :=
  [knownAs 'c' "bytes" .none, knownAs 'm' "chars" .none, knownAs 'l' "lines" .none,
   knownAs 'w' "words" .none, knownAs 'L' "max-line-length" .none,
   knownName "files0-from" .required] ++ aboutOptions

/-- How long something is that is a file; nothing if it is none. -/
def Setting.sizeOf (s : Setting) (name : String) : Option Nat :=
  if Setting.isInput name then s.inputSize
  else match s.files.find s.directory name with
    | .ok (.file content _) => some content.length
    | _ => none

/-- The columns that counts are aligned in: as many as all files together need, and seven if one
is not a file. A single count is not aligned. -/
def countWidth (s : Setting) (operands : List String) (keys : List String) : Nat :=
  if operands.length ≤ 1 ∧ keys.length = 1 then 1
  else
    let there := operands.filter fun name =>
      Setting.isInput name || (s.files.find s.directory name).isOk
    let sizes := there.map s.sizeOf
    let digits := (toString ((sizes.filterMap id).foldl (· + ·) 0)).length
    if sizes.contains none then max 7 digits else digits

/-- Count what operands hold. With a list of names, they come from its records. -/
def countOperands (s : Setting) (keys : List String) (list : Option String) (titled : Bool)
    (operands : List String) : Result :=
  let opened := s.openAll operands
  let width := countWidth s operands keys
  let line (n : Counts) (title : List Char) : Outlet × Stream :=
    (.output, .ofText ([' '].intercalate ((n.chosen keys).map (aligned width)) ++ title ++ ['\n']))
  let title (name : String) : List Char := if titled then ' ' :: name.toList else []
  let countOf (held : Except FileError Stream) : Counts :=
    match held with
    | .ok stream => countText stream.text
    | .error _ => .zero
  let printed := opened.zipIdx.flatMap fun ((name, held), i) =>
    if name.isEmpty then
      let record := match list with
        | some list => quoteFile list ++ ":" ++ toString (i + 1) ++ ": "
        | none => ""
      [s.complaint (record ++ "invalid zero-length file name")]
    else match held with
      | .ok _ => [line (countOf held) (title name)]
      | .error e =>
        s.complaint ((if titled then quoteFile name else "'standard input'") ++ ": " ++ e.message) ::
          (if e.arisesReading then [line .zero (title name)] else [])
  let sum := (opened.map fun (_, held) => countOf held).foldl Counts.add .zero
  let endless := anyEndless opened
  { s.finish (if opened.all fun (_, held) => held.isOk then 0 else 1)
      (printed ++ (if 1 < operands.length then [line sum " total".toList] else []) ++ s.closing operands "-") with
    left := s.leftBy operands
    milliseconds := if endless then none else some 0 }

/-- Count what is in the input or files, or in the files that a file names. -/
def wc : Tool := fun s =>
  match splitOptions wcOptions true s.words with
  | .error e => s.fail 1 (e ++ "\n" ++ helpHint s.name)
  | .ok (options, operands) =>
    let keys := countKeys.filter options.has
    match options.about? "wc", (options.values "files0-from").getLast?, operands with
    | some text, _, _ => s.print text
    | none, some _, operand :: _ =>
      s.fail 1 ("extra operand " ++ quoteName operand ++ "\n" ++ helpHint s.name)
    | none, some list, [] =>
      match s.open? list with
      | .error e => s.fail 1 ("cannot open " ++ quoteForShell list ++ " for reading: " ++ e.message)
      | .ok stream =>
        let zero := Char.ofNat 0
        let names := (linesEndingIn zero stream.text).map fun line => String.ofList (line.filter (· != zero))
        countOperands { s with input := if Setting.isInput list then .empty else s.input } keys (some list) true names
    | none, none, [] => countOperands s keys none false ["-"]
    | none, none, operands => countOperands s keys none true operands

end PassTuner.Toolbox

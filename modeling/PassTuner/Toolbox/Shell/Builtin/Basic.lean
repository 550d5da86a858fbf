import PassTuner.Toolbox.Shell.Program

/-! Commands that a shell runs itself. -/
namespace PassTuner.Toolbox.Shell

/-- A command of the shell's own: what it does with its words, and its status. -/
abbrev Builtin := Machine → List String → Run Nat

/-- Letters of options that were found, with their values, and the operands. -/
structure Letters where
  found : List (Char × String)
  operands : List String

/-- The letters of a word, some of which take the rest of it or the next word for a value. -/
def readLetters (known valued : List Char) : List Char → List String → Run Letters
  | [], rest => return ⟨[], rest⟩
  | c :: letters, rest => do
    if valued.contains c then
      match letters, rest with
      | [], [] => Run.fail ("No arg for -" ++ String.singleton c ++ " option")
      | [], value :: rest => return ⟨[(c, value)], rest⟩
      | letters, rest => return ⟨[(c, String.ofList letters)], rest⟩
    else if known.contains c then
      let others ← readLetters known valued letters rest
      return { others with found := (c, "") :: others.found }
    else Run.fail ("Illegal option -" ++ String.singleton c)

/-- The options among words, which operands end. The words are counted down by `fuel`. -/
def takeLettersOf (known valued : List Char) : Nat → List String → Run Letters
  | 0, words => return ⟨[], words⟩
  | fuel + 1, words => do
    match words with
    | [] => return ⟨[], []⟩
    | word :: rest =>
      match word.toList with
      | ['-', '-'] => return ⟨[], rest⟩
      | '-' :: c :: letters =>
        let own ← readLetters known valued (c :: letters) rest
        let others ← takeLettersOf known valued fuel own.operands
        return { others with found := own.found ++ others.found }
      | _ => return ⟨[], words⟩

/-- The options among words, which operands end. -/
def takeLetters (known valued : List Char) (words : List String) : Run Letters :=
  takeLettersOf known valued (words.length + 1) words

def Letters.has (l : Letters) (c : Char) : Bool := l.found.any fun found => found.1 == c

/-- A number in a word: a whole one that is not negative. -/
def naturalOf (word : String) : Run Nat := do
  match readWhole? false word.toList with
  | some (i, rest) =>
    if rest.all isSpace && 0 ≤ i && i < 0x80000000 then return i.toNat
    else Run.fail ("Illegal number: " ++ word)
  | none => Run.fail ("Illegal number: " ++ word)

def emitLine (text : String) : Run Unit := Run.emit (text ++ "\n").toList

/-- A text in quotes, as it can be read back: single ones around all but single quotes, and double ones
around those. -/
def quoted (text : String) : String :=
  let rec pieces : List Char → List Char → List Char
    | current, [] => if current.isEmpty then [] else '\'' :: current.reverse ++ ['\'']
    | current, '\'' :: rest =>
      (if current.isEmpty then [] else '\'' :: current.reverse ++ ['\'']) ++ '"' :: '\'' :: '"' :: pieces [] rest
    | current, c :: rest => pieces (c :: current) rest
  if text.isEmpty then "''" else String.ofList (pieces [] text.toList)

end PassTuner.Toolbox.Shell

/-! Scripts of a command language, as trees: words, redirections and commands. -/
namespace PassTuner.Toolbox.Shell

/-- What is made of a parameter. A word belongs to all but the first two. -/
inductive Treatment where
  | value
  | length
  /-- the word, if there is no value -/
  | fallback
  /-- the word, if there is a value -/
  | alternative
  /-- a complaint, if there is no value -/
  | demand
  /-- the word, which becomes the value, if there is none -/
  | assign
  /-- the value without what a pattern matches at one of its ends -/
  | trim (atEnd longest : Bool)
  | unknown
  deriving DecidableEq, Repr

/-- What a redirection does to a descriptor. -/
inductive Redirecting where
  | read
  | readWrite
  | write
  | clobber
  | append
  | duplicate
  /-- the descriptor reads a document that is found under a number; its parameters are expanded or
  not -/
  | document (number : Nat)
  deriving DecidableEq, Repr

mutual

/-- A piece of a word. -/
inductive Part where
  | char (c : Char)
  /-- a character without any special meaning -/
  | literal (c : Char)
  /-- where quotes begin or end -/
  | mark
  /-- a parameter; `orEmpty` takes an empty value for none -/
  | parameter (name : String) (treatment : Treatment) (orEmpty : Bool) (word : List Part)
  /-- what commands print -/
  | output (commands : List Command)
  | arithmetic (expression : List Part)

inductive Redirection where
  | mk (descriptor : Nat) (kind : Redirecting) (target : List Part)

inductive Command where
  | simple (line : Nat) (assignments words : List (List Part)) (redirections : List Redirection)
  | pipeline (commands : List Command) (background : Bool)
  | negated (command : Command)
  | both (left right : Command)
  | either (left right : Command)
  | sequence (commands : List Command)
  | background (line : Nat) (command : Command) (redirections : List Redirection)
  | subshell (line : Nat) (command : Command) (redirections : List Redirection)
  | redirected (line : Nat) (command : Command) (redirections : List Redirection)
  | conditional (test body other : Command)
  /-- run the body as long as the test ends well, or badly -/
  | loop (endsWell : Bool) (test body : Command)
  | iteration (line : Nat) (name : String) (words : List (List Part)) (body : Command)
  | choice (line : Nat) (subject : List Part) (branches : List (List (List Part) × Command))
  | definition (line : Nat) (name : String) (body : Command)

end

instance : Inhabited Part := ⟨.mark⟩

instance : Inhabited Command := ⟨.sequence []⟩

abbrev Word := List Part

def startsName (c : Char) : Bool := c.isAlpha || c == '_'

def isNamePart (c : Char) : Bool := c.isAlphanum || c == '_'

def isName (text : List Char) : Bool :=
  match text with
  | [] => false
  | c :: rest => startsName c && rest.all isNamePart

/-- Parameters whose names are one character that is not a letter. -/
def isSpecialName (c : Char) : Bool := c.isDigit || ['@', '*', '#', '?', '-', '$', '!'].contains c

/-- The characters of a word that has no quotes and no expansions. -/
def plainText? (word : Word) : Option (List Char) :=
  word.mapM fun part =>
    match part with
    | .char c => some c
    | _ => none

/-- The characters at the start of a word that stand for themselves. -/
def plainStart : Word → List Char
  | .char c :: rest => c :: plainStart rest
  | _ => []

/-- Whether a word assigns to a variable: it begins with a name and an equals sign. -/
def isAssignment (word : Word) : Bool :=
  match (plainStart word).span isNamePart with
  | (name, '=' :: _) => isName name
  | _ => false

end PassTuner.Toolbox.Shell

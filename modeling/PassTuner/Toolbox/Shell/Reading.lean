import PassTuner.Toolbox.Shell.Syntax

/-! How far a script is read, and taking single characters of it. -/
namespace PassTuner.Toolbox.Shell

inductive Keyword where
  | bang | case | do | done | elif | else | esac | fi | for | if | in | then | until | while
  | opening | closing
  deriving DecidableEq, Repr

def Keyword.all : List (String × Keyword) :=
  [("!", .bang), ("case", .case), ("do", .do), ("done", .done), ("elif", .elif), ("else", .else),
   ("esac", .esac), ("fi", .fi), ("for", .for), ("if", .if), ("in", .in), ("then", .then),
   ("until", .until), ("while", .while), ("\x7b", .opening), ("\x7d", .closing)]

inductive Token where
  | endOfText | newline | semicolon | ampersand | and | or | pipe | open | close | endOfBranch
  | redirection | word
  | keyword (k : Keyword)
  deriving DecidableEq, Repr

def Token.name : Token → String
  | .endOfText => "end of file"
  | .newline => "newline"
  | .semicolon => "\";\""
  | .ampersand => "\"&\""
  | .and => "\"&&\""
  | .or => "\"||\""
  | .pipe => "\"|\""
  | .open => "\"(\""
  | .close => "\")\""
  | .endOfBranch => "\";;\""
  | .redirection => "redirection"
  | .word => "word"
  | .keyword k => "\"" ++ ((Keyword.all.find? fun entry => entry.2 == k).map Prod.fst).getD "" ++ "\""

/-- Whether a token can only stand behind a list of commands. -/
def Token.endsList : Token → Bool
  | .endOfText | .close | .endOfBranch => true
  | .keyword k => [Keyword.do, .done, .elif, .else, .esac, .fi, .then, .closing].contains k
  | _ => false

structure SyntaxError where
  line : Nat
  message : String
  /-- what was left of the text -/
  left : List Char
  deriving DecidableEq, Repr

/-- What is looked at when a token is read. -/
structure Expecting where
  /-- line ends are skipped -/
  skipsLines : Bool
  keywords : Bool
  aliases : Bool
  /-- the word is the last line of a document, in which nothing is expanded -/
  documentEnd : Bool

def Expecting.nothing : Expecting := ⟨false, false, false, false⟩

/-- Behind which a command begins, perhaps after line ends. -/
def Expecting.command (skipsLines : Bool) : Expecting := ⟨skipsLines, true, true, false⟩

/-- A document to be read behind the line. -/
structure Awaited where
  number : Nat
  lastLine : List Char
  dropsTabs : Bool
  expands : Bool

/-- An alias that was replaced in the text. -/
structure Replaced where
  name : String
  /-- how much text is left behind what it stands for -/
  behind : Nat
  /-- what it stands for ends with a blank, so that the next word can be an alias too -/
  goesOn : Bool

/-- How far a script is read. -/
structure Reading where
  text : List Char
  /-- how much text was left where the word read last begins -/
  atWord : Nat
  line : Nat
  expecting : Expecting
  /-- the token read last, and whether it is to be read again -/
  last : Token
  again : Bool
  word : Word
  isQuoted : Bool
  redirection : Nat × Redirecting × Bool
  awaited : List Awaited
  documents : List (Nat × Word)
  nextDocument : Nat
  aliases : List (String × String)
  /-- aliases whose text is being read, in which they are not replaced again -/
  replaced : List Replaced

abbrev Reader := StateT Reading (Except SyntaxError)

namespace Reader

def fail {α : Type} (message : String) : Reader α := do
  let r ← get
  throw ⟨r.line, message, r.text⟩

/-- The rest of a text without line ends that are escaped. -/
def skipJoins : List Char → Nat → List Char × Nat
  | '\\' :: '\n' :: rest, line => skipJoins rest (line + 1)
  | rest, line => (rest, line)

def look : Reader (Option Char) := do return (← get).text.head?

/-- The next character that is not a line end with a backslash in front of it. -/
def peek : Reader (Option Char) := do
  modify fun r =>
    let (text, line) := skipJoins r.text r.line
    { r with text, line }
  look

def skip : Reader Unit :=
  modify fun r => { r with
    text := r.text.drop 1
    line := r.line + if r.text.head? = some '\n' then 1 else 0 }

/-- Take the next character. A line end that is taken so is not counted. -/
def skipUncounted : Reader Unit := modify fun r => { r with text := r.text.drop 1 }

/-- Take the next character if it is the one given. -/
def take? (c : Char) : Reader Bool := do
  if (← peek) = some c then
    skip
    return true
  return false

def expect (e : Expecting) : Reader Unit := modify fun r => { r with expecting := e }

def back : Reader Unit := modify fun r => { r with again := true }

def unexpected {α : Type} (wanted : Option Token) : Reader α := do
  let message := (← get).last.name ++ " unexpected"
  fail (match wanted with
    | some token => message ++ " (expecting " ++ token.name ++ ")"
    | none => message)

end Reader

end PassTuner.Toolbox.Shell

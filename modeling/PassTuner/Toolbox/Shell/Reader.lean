import PassTuner.Toolbox.Shell.Token

/-! Reading commands, line by line. -/
namespace PassTuner.Toolbox.Shell

open Reader

/-- Where a list of commands stands. -/
inductive ListKind where
  /-- a line of a script -/
  | line
  /-- within a command; not empty -/
  | body
  /-- within a command; perhaps empty -/
  | perhaps
  deriving DecidableEq, Repr

/-- Readers for what can stand within what is read. -/
structure Readers where
  list : ListKind → Reader (Option (List Command))
  command : Reader Command

namespace Readers

def enclosed (r : Readers) (token : Reader Token) : Reader (List Command) := do
  let before ← get
  modify fun s => { s with awaited := [], expecting := .nothing }
  let commands ← r.list .perhaps
  if (← token) ≠ .close then unexpected (some .close)
  modify fun s => { s with awaited := before.awaited, expecting := before.expecting }
  return commands.getD []

def filling (r : Readers) : Reader (List Command) := do
  let commands ← r.list .perhaps
  return commands.getD []

/-- The next token, where words hold what the readers read. One level less is left within words. -/
def tokenWith (r : Readers) (enclosedToken : Reader Token) : Reader Token := do
  let s ← get
  readToken ⟨r.enclosed enclosedToken⟩ r.filling ((s.aliases.length + 1) * (s.text.length + 1))

end Readers

/-- Names of the commands that no function can take the place of. -/
def specialNames : List String :=
  [".", ":", "break", "continue", "eval", "exec", "exit", "export", "readonly", "return", "set",
   "shift", "times", "trap", "unset"]

/-- Readers of one level, given those of the next and how tokens are read. -/
structure Level where
  inner : Readers
  token : Reader Token
  documents : Reader Unit

namespace Level

/-- The word behind a redirection, which completes it. -/
def readTarget (l : Level) : Reader Redirection := do
  let (descriptor, kind, dropsTabs) := (← get).redirection
  match kind with
  | .document _ =>
    expect { Expecting.nothing with documentEnd := true }
    if (← l.token) ≠ .word then unexpected none
    let r ← get
    let lastLine := r.word.filterMap fun part =>
      match part with
      | .char c | .literal c => some c
      | _ => none
    let awaited : Awaited := ⟨r.nextDocument, lastLine, dropsTabs, !r.isQuoted⟩
    set { r with nextDocument := r.nextDocument + 1, awaited := r.awaited ++ [awaited] }
    return .mk descriptor (.document r.nextDocument) (if r.isQuoted then [.mark] else [])
  | _ =>
    if (← l.token) ≠ .word then unexpected none
    return .mk descriptor kind (← get).word

def redirections (l : Level) : Nat → Reader (List Redirection)
  | 0 => return []
  | fuel + 1 => do
    if (← l.token) = .redirection then
      let first ← l.readTarget
      return first :: (← l.redirections fuel)
    else
      back
      return []

/-- Words and redirections of a simple command. -/
structure Simple where
  assignments : List Word
  words : List Word
  redirections : List Redirection

/-- A simple command, or the definition of a function. The lists are in reverse order. -/
def simple (l : Level) (line : Nat) : Nat → Simple → Reader Command
  | 0, _ => fail "command too long"
  | fuel + 1, s => do
    expect { Expecting.nothing with aliases := s.words.isEmpty }
    match ← l.token with
    | .word =>
      let word := (← get).word
      if s.words.isEmpty && isAssignment word then
        l.simple line fuel { s with assignments := word :: s.assignments }
      else l.simple line fuel { s with words := word :: s.words }
    | .redirection =>
      let redirection ← l.readTarget
      l.simple line fuel { s with redirections := redirection :: s.redirections }
    | token =>
      match token, s with
      | .open, ⟨[], [name], []⟩ =>
        if (← l.token) ≠ .close then unexpected (some .close)
        match plainText? name with
        | some name =>
          if !isName name || specialNames.contains (String.ofList name) then fail "Bad function name"
          expect (.command true)
          let line := (← get).line
          return .definition line (String.ofList name) (← l.inner.command)
        | none => fail "Bad function name"
      | _, _ =>
        back
        return .simple line s.assignments.reverse s.words.reverse s.redirections.reverse

def body (l : Level) : Reader Command := do
  match ← l.inner.list .body with
  | some [command] => return command
  | some commands => return .sequence commands
  | none => return .sequence []

def need (l : Level) (token : Token) : Reader Unit := do
  if (← l.token) ≠ token then unexpected (some token)

def conditional (l : Level) : Nat → Reader Command
  | 0 => fail "command too long"
  | fuel + 1 => do
    let test ← l.body
    l.need (.keyword .then)
    let body ← l.body
    match ← l.token with
    | .keyword .elif => return .conditional test body (← l.conditional fuel)
    | .keyword .else => return .conditional test body (← l.body)
    | _ =>
      back
      return .conditional test body (.sequence [])

def iterated (l : Level) : Nat → Reader (List Word)
  | 0 => return []
  | fuel + 1 => do
    if (← l.token) = .word then
      let word := (← get).word
      return word :: (← l.iterated fuel)
    else return []

def iteration (l : Level) (line : Nat) : Reader Command := do
  let token ← l.token
  let r ← get
  match if token = .word ∧ !r.isQuoted then plainText? r.word else none with
  | none => fail "Bad for loop variable"
  | some name =>
    if !isName name then fail "Bad for loop variable"
    expect (.command true)
    let words ← if (← l.token) = .keyword .in then do
        let words ← l.iterated ((← get).text.length + 1)
        let last := (← get).last
        if last ≠ .newline ∧ last ≠ .semicolon then unexpected none
        pure words
      else do
        if (← get).last ≠ .semicolon then back
        pure [[.mark, .parameter "@" .value false [], .mark]]
    expect (.command true)
    l.need (.keyword .do)
    return .iteration line (String.ofList name) words (← l.body)

/-- The patterns of a branch, with bars between them, up to the parenthesis behind them. -/
def patterns (l : Level) : Nat → Reader (List Word)
  | 0 => return []
  | fuel + 1 => do
    let word := (← get).word
    if (← l.token) = .pipe then
      let _ ← l.token
      return word :: (← l.patterns fuel)
    else return [word]

def branches (l : Level) : Nat → Reader (List (List Word × Command))
  | 0 => return []
  | fuel + 1 => do
    expect ⟨true, true, false, false⟩
    let token ← l.token
    if token = .keyword .esac then return []
    if token = .open then
      let _ ← l.token
    let patterns ← l.patterns ((← get).text.length + 1)
    if (← get).last ≠ .close then unexpected (some .close)
    let commands := (← l.inner.list .perhaps).getD []
    let branch := (patterns, Command.sequence commands)
    expect ⟨true, true, false, false⟩
    let token ← l.token
    if token = .keyword .esac then return [branch]
    if token ≠ .endOfBranch then unexpected (some .endOfBranch)
    return branch :: (← l.branches fuel)

def choice (l : Level) (line : Nat) : Reader Command := do
  l.need .word
  let subject := (← get).word
  expect (.command true)
  l.need (.keyword .in)
  return .choice line subject (← l.branches ((← get).text.length + 1))

def command (l : Level) : Reader Command := do
  let line := (← get).line
  let closed (command : Command) (token : Token) : Reader Command := do
    l.need token
    return command
  let compound ← match ← l.token with
    | .keyword .if => do
      let command ← l.conditional ((← get).text.length + 1)
      some <$> closed command (.keyword .fi)
    | .keyword .while => do
      let test ← l.body
      l.need (.keyword .do)
      some <$> closed (.loop true test (← l.body)) (.keyword .done)
    | .keyword .until => do
      let test ← l.body
      l.need (.keyword .do)
      some <$> closed (.loop false test (← l.body)) (.keyword .done)
    | .keyword .for => do
      let command ← l.iteration line
      some <$> closed command (.keyword .done)
    | .keyword .case => some <$> l.choice line
    | .open => do
      let command ← l.body
      some <$> closed (.subshell line command []) .close
    | .keyword .opening => do
      let command ← l.body
      some <$> closed command (.keyword .closing)
    | .word | .redirection => do
      back
      pure none
    | _ => unexpected none
  match compound with
  | none => l.simple line ((← get).text.length + 2) ⟨[], [], []⟩
  | some command =>
    expect ⟨false, true, true, false⟩
    match ← l.redirections ((← get).text.length + 1), command with
    | [], _ => return command
    | redirections, .subshell line command _ => return .subshell line command redirections
    | redirections, _ => return .redirected line command redirections

def pipes (l : Level) : Nat → Reader (List Command)
  | 0 => return []
  | fuel + 1 => do
    if (← l.token) = .pipe then
      expect (.command true)
      let command ← l.command
      return command :: (← l.pipes fuel)
    else
      back
      return []

/-- A pipeline, perhaps with its status negated. -/
def pipeline (l : Level) : Reader Command := do
  let negated := (← l.token) = .keyword .bang
  if negated then expect (.command false) else back
  let first ← l.command
  let command := match ← l.pipes ((← get).text.length + 1) with
    | [] => first
    | rest => .pipeline (first :: rest) false
  return if negated then .negated command else command

def andOr (l : Level) : Nat → Command → Reader Command
  | 0, command => return command
  | fuel + 1, command => do
    match ← l.token with
    | .and =>
      expect (.command true)
      l.andOr fuel (.both command (← l.pipeline))
    | .or =>
      expect (.command true)
      l.andOr fuel (.either command (← l.pipeline))
    | _ =>
      back
      return command

def inBackground : Command → Command
  | .pipeline commands _ => .pipeline commands true
  | .redirected line command redirections => .background line command redirections
  | command => .background 0 command []

/-- A list of commands; nothing, if a line is asked for and the text has ended. The commands read
so far are in reverse order. -/
def list (l : Level) (kind : ListKind) : Nat → List Command → Reader (Option (List Command))
  | 0, commands => return some commands.reverse
  | fuel + 1, commands => do
    let isLine := kind == .line
    let atEnd : Reader (Option (List Command)) := do
      l.documents
      modify fun r => { r with again := true, last := .endOfText }
      return if isLine && commands.isEmpty then none else some commands.reverse
    expect (.command (!isLine))
    let token ← l.token
    if token = .newline then
      l.documents
      return some commands.reverse
    else if token = .endOfText then atEnd
    else
      back
      if kind = .perhaps ∧ token.endsList then return some commands.reverse
      let first ← l.pipeline
      let command ← l.andOr ((← get).text.length + 1) first
      let token ← l.token
      let commands := (if token = .ampersand then inBackground command else command) :: commands
      match token with
      | .endOfText =>
        l.documents
        modify fun r => { r with again := true, last := .endOfText }
        return some commands.reverse
      | .newline =>
        back
        l.list (if kind = .body then .perhaps else kind) fuel commands
      | .ampersand | .semicolon => l.list (if kind = .body then .perhaps else kind) fuel commands
      | _ =>
        if isLine then unexpected none
        back
        return some commands.reverse

end Level

/-- Readers in which so many levels can stand within each other. -/
def readers : Nat → Readers × Reader Token
  | 0 => (⟨fun _ => fail "too many levels", fail "too many levels"⟩, fail "too many levels")
  | n + 1 =>
    let (inner, innerToken) := readers n
    let token := inner.tokenWith innerToken
    let l : Level := ⟨inner, token, takeDocuments ⟨inner.enclosed innerToken⟩ inner.filling⟩
    let list (kind : ListKind) : Reader (Option (List Command)) := do
      l.list kind ((← get).text.length + 2) []
    (⟨list, l.command⟩, token)

/-- What is left of a script when a line of it has been read. -/
structure Script where
  text : List Char
  line : Nat
  nextDocument : Nat
  aliases : List (String × String)
  replaced : List Replaced

/-- A line of a script: its commands, with the documents that they read, and whether the end of the
text was met behind them. -/
structure ScriptLine where
  commands : List Command
  documents : List (Nat × Word)
  endsText : Bool

/-- How many levels can stand within each other in what is left of a script. -/
def Script.depth (s : Script) : Nat :=
  s.text.length + (s.aliases.map fun entry => entry.2.length).foldl (· + ·) 0 + 2

def Script.reading (s : Script) : Reading :=
  { text := s.text, atWord := 0, line := s.line, expecting := .nothing, last := .newline, again := false, word := [],
    isQuoted := false, redirection := (0, .read, false), awaited := [], documents := [],
    nextDocument := s.nextDocument, aliases := s.aliases, replaced := s.replaced }

/-- Read a line of a script; nothing at the end of the text. -/
def Script.readLine (s : Script) : Except SyntaxError (Option ScriptLine × Script) :=
  match ((readers s.depth).1.list .line).run s.reading with
  | .error e => .error e
  | .ok (commands, r) =>
    .ok (commands.map fun commands => ⟨commands, r.documents, r.again⟩,
      { s with text := r.text, line := r.line, nextDocument := r.nextDocument, replaced := r.replaced })

/-- A text that was read as a document. -/
structure DocumentText where
  word : Word
  /-- what commands within it read -/
  documents : List (Nat × Word)
  nextDocument : Nat
  endMet : Bool

/-- Read a text as a document. If the end of another text was met before and not been looked at, commands
within this one find it. -/
def Script.readDocument (s : Script) (endMet : Bool) : Except SyntaxError DocumentText := do
  let (inner, token) := readers s.depth
  let ((word, _), r) ← (readWord ⟨inner.enclosed token⟩ inner.filling (some ⟨none, false, true⟩)
    (Layer.start .double true)).run { s.reading with again := endMet, last := .endOfText }
  return ⟨word, r.documents, r.nextDocument, r.again⟩

end PassTuner.Toolbox.Shell

import PassTuner.Toolbox.Shell.Word

/-! Reading tokens.

What a word is depends on where it stands: keywords are words where a command can begin, and aliases
are replaced there. So tokens are read on demand. Documents that redirections read stand behind the
line that asks for them. -/
namespace PassTuner.Toolbox.Shell

open Reader

/-- The kind of a redirection whose first character was read, and whether tabs are dropped. -/
def readRedirecting (c : Char) : Reader (Redirecting × Bool) := do
  if c = '>' then
    if ← take? '>' then return (.append, false)
    else if ← take? '|' then return (.clobber, false)
    else if ← take? '&' then return (.duplicate, false)
    else return (.write, false)
  else if ← take? '<' then return (.document 0, ← take? '-')
  else if ← take? '&' then return (.duplicate, false)
  else if ← take? '>' then return (.readWrite, false)
  else return (.read, false)

/-- A token that begins with a word, or the redirection that a digit or nothing in front belongs to. -/
def readWordToken (inner : Inner) (backquoted : Reader (List Command)) : Reader Token := do
  let (word, isQuoted) ← readWord inner backquoted none (Layer.start .none false)
  let digit? : Option (Option Nat) := match word with
    | [] => some none
    | [.char d] => if d.isDigit then some (some (d.toNat - '0'.toNat)) else none
    | _ => none
  match ← peek, digit?, isQuoted with
  | some c, some digit, false =>
    if c = '<' ∨ c = '>' then
      skip
      let (kind, dropsTabs) ← readRedirecting c
      modify fun r => { r with
        redirection := (digit.getD (if c = '>' then 1 else 0), kind, dropsTabs) }
      return .redirection
    else
      modify fun r => { r with word, isQuoted }
      return .word
  | _, _, _ =>
    modify fun r => { r with word, isQuoted }
    return .word

/-- The next token, keywords not being told from words. -/
def readRawToken (inner : Inner) (backquoted : Reader (List Command)) : Nat → Reader Token
  | 0 => return .endOfText
  | fuel + 1 => do
    let single (token : Token) : Reader Token := do
      skip
      return token
    let double (c : Char) (token two : Token) : Reader Token := do
      skip
      if ← take? c then return two else return token
    match ← peek with
    | none => return .endOfText
    | some ' ' | some '\t' =>
      skip
      readRawToken inner backquoted fuel
    | some '#' =>
      modify fun r => { r with text := r.text.dropWhile (· != '\n') }
      readRawToken inner backquoted fuel
    | some '\n' => single .newline
    | some '&' => double '&' .ampersand .and
    | some '|' => double '|' .pipe .or
    | some ';' => double ';' .semicolon .endOfBranch
    | some '(' => single .open
    | some ')' => single .close
    | some _ =>
      modify fun r => { r with atWord := r.text.length }
      readWordToken inner backquoted

/-- The next token, or the last again. -/
def nextRaw (inner : Inner) (backquoted : Reader (List Command)) : Reader Token := do
  let r ← get
  if r.again then
    set { r with again := false }
    return r.last
  else
    let token ← readRawToken inner backquoted (r.text.length + 1)
    modify fun r => { r with last := token }
    return token

/-- The documents that are awaited, now that their line has ended. -/
def readDocuments (inner : Inner) (backquoted : Reader (List Command)) : List Awaited → Reader Unit
  | [] => return
  | a :: rest => do
    let layer := if a.expands then Layer.start .double true else Layer.start .single false
    let (word, _) ← readWord inner backquoted (some ⟨some a.lastLine, a.dropsTabs, a.expands⟩) layer
    modify fun r => { r with documents := (a.number, word) :: r.documents }
    readDocuments inner backquoted rest

def takeDocuments (inner : Inner) (backquoted : Reader (List Command)) : Reader Unit := do
  let awaited := (← get).awaited
  modify fun r => { r with awaited := [], expecting := .nothing }
  readDocuments inner backquoted awaited

def skipLines (inner : Inner) (backquoted : Reader (List Command)) : Nat → Token → Reader Token
  | fuel + 1, .newline => do
    takeDocuments inner backquoted
    skipLines inner backquoted fuel (← nextRaw inner backquoted)
  | _, token => return token

/-- Take note of the aliases whose text has ended where a word begins; tells whether the word can be
an alias because of that. -/
def passReplaced : Reader Bool := do
  let r ← get
  let (passed, replaced) := r.replaced.partition fun entry => decide (r.atWord ≤ entry.behind)
  set { r with replaced }
  return passed.any Replaced.goesOn

/-- The next token. An alias is replaced in the text, and what it stands for is read. -/
def readToken (inner : Inner) (backquoted : Reader (List Command)) : Nat → Reader Token
  | 0 => return .endOfText
  | fuel + 1 => do
    let expecting := (← get).expecting
    let first ← nextRaw inner backquoted
    let token ← if expecting.skipsLines then
        skipLines inner backquoted ((← get).text.length + 1) first
      else pure first
    modify fun r => { r with expecting := .nothing }
    if token ≠ .word then return token
    let goesOn ← passReplaced
    let r ← get
    if r.isQuoted then return token
    match plainText? r.word with
    | none => return token
    | some text =>
      let name := String.ofList text
      match if expecting.keywords then Keyword.all.lookup name else none with
      | some k =>
        set { r with last := .keyword k }
        return .keyword k
      | none =>
        let canBeReplaced := (expecting.aliases || goesOn) && !r.replaced.any fun entry => entry.name == name
        match if canBeReplaced then r.aliases.lookup name else none with
        | some value =>
          let goesOn := match value.toList.getLast? with
            | some c => c == ' ' || c == '\t'
            | none => false
          set { r with
            text := value.toList ++ r.text
            replaced := ⟨name, r.text.length, goesOn⟩ :: r.replaced
            expecting }
          readToken inner backquoted fuel
        | none => return token

end PassTuner.Toolbox.Shell

import PassTuner.Toolbox.Shell.Reading

/-! Reading words.

Quotes and expansions can stand within each other. Which characters are special is told by layers:
one for each place where quotes count anew. -/
namespace PassTuner.Toolbox.Shell

open Reader

/-- Which characters are special. -/
inductive Quoting where
  | none
  | double
  | single
  | arithmetic
  deriving DecidableEq, Repr

/-- A layer of quotes within expansions. -/
structure Layer where
  quoting : Quoting
  /-- whether the word of a parameter has quotes of its own within double ones -/
  innerQuotes : Bool
  /-- whether the layer ends with the parameter that it began with -/
  ofParameter : Bool
  isDouble : Bool
  /-- parameters that are open, and those of them in double quotes -/
  parameters : Nat
  doubleParameters : Nat
  parentheses : Nat

def Layer.start (quoting : Quoting) (isDouble : Bool) : Layer :=
  ⟨quoting, false, false, isDouble, 0, 0, 0⟩

/-- An expansion that is open, with the pieces read before it. -/
inductive Opened where
  | parameter (name : String) (treatment : Treatment) (orEmpty : Bool)
  | arithmetic

/-- How far a word is read. The pieces are in reverse order. -/
structure Scan where
  layer : Layer
  below : List Layer
  parts : List Part
  opened : List (Opened × List Part)
  isQuoted : Bool

namespace Scan

def put (s : Scan) (part : Part) : Scan := { s with parts := part :: s.parts }

def openUp (s : Scan) (what : Opened) : Scan :=
  { s with parts := [], opened := (what, s.parts) :: s.opened }

def closeUp (s : Scan) : Scan :=
  match s.opened with
  | [] => s
  | (.parameter name treatment orEmpty, before) :: rest =>
    { s with parts := .parameter name treatment orEmpty s.parts.reverse :: before, opened := rest }
  | (.arithmetic, before) :: rest =>
    { s with parts := .arithmetic s.parts.reverse :: before, opened := rest }

def push (s : Scan) (layer : Layer) : Scan := { s with layer := layer, below := s.layer :: s.below }

def pop (s : Scan) : Scan :=
  match s.below with
  | [] => s
  | layer :: below => { s with layer, below }

end Scan

def losesMeaning (c : Char) : Bool := ['!', '*', '?', '[', '=', '~', ':', '/', '-', ']'].contains c

/-- The first of the characters of a name or number at the start of a text, and what follows. -/
def spanJoined (p : Char → Bool) : Nat → Reader (List Char)
  | 0 => return []
  | fuel + 1 => do
    match ← peek with
    | some c =>
      if p c then
        skip
        return c :: (← spanJoined p fuel)
      else return []
    | none => return []

def spanRest (p : Char → Bool) : Reader (List Char) := do spanJoined p (← get).text.length

/-- The name of a parameter within braces, and whether its length is asked for; nothing if there is
no name. -/
def readBraced : Reader (Option (List Char) × Bool) := do
  match ← peek with
  | none => return (none, false)
  | some c =>
    if startsName c then return (some (← spanRest isNamePart), false)
    else if c.isDigit then return (some (← spanRest Char.isDigit), false)
    else if c = '}' then return (none, false)
    else if c = '#' then
      skip
      match ← peek with
      | some d =>
        if d = '_' || d.isAlphanum then
          let name ← if d.isDigit then spanRest Char.isDigit else spanRest isNamePart
          return (some name, true)
        else
          let before ← get
          skip
          if d ≠ '}' && (← peek) = some '}' then
            return (if isSpecialName d then some [d] else none, isSpecialName d)
          set before
          return (some ['#'], false)
      | none => return (some ['#'], false)
    else
      skip
      return (if isSpecialName c then some [c] else none, false)

/-- What is to be made of a parameter, behind its name within braces. -/
def readTreatment (asksLength : Bool) : Reader (Treatment × Bool) := do
  if asksLength then
    if (← peek) = some '}' then return (.length, false) else return (.unknown, false)
  else
    let orEmpty ← take? ':'
    let treatments : List (Char × Treatment) :=
      [('}', .value), ('-', .fallback), ('+', .alternative), ('?', .demand), ('=', .assign)]
    match ← peek with
    | none => return (.unknown, orEmpty)
    | some c =>
      match treatments.lookup c with
      | some treatment =>
        skip
        return (treatment, orEmpty)
      | none =>
        if !orEmpty && (c == '%' || c == '#') then
          skip
          let longest ← take? c
          return (.trim (c == '%') longest, false)
        else
          skipUncounted
          return (.unknown, orEmpty)

def scanParameter (s : Scan) (braced : Bool) : Reader Scan := do
  if !braced then
    match ← peek with
    | some c =>
      let name ← if startsName c then spanRest isNamePart
        else do
          skip
          pure [c]
      return s.put (.parameter (String.ofList name) .value false [])
    | none => return s
  else
    let (name, asksLength) ← readBraced
    let (treatment, orEmpty) ← match name with
      | some _ => readTreatment asksLength
      | none => pure (.unknown, false)
    let name := String.ofList (name.getD [])
    if treatment = .value && !orEmpty then return s.put (.parameter name .value false [])
    else
      let trims := match treatment with
        | .trim _ _ => true
        | _ => false
      let quoting := if trims then Quoting.none
        else if s.layer.quoting = .arithmetic then .double else s.layer.quoting
      let s := if quoting ≠ s.layer.quoting || s.layer.innerQuotes then
          s.push { Layer.start quoting (quoting != .none) with ofParameter := true }
        else s
      let layer := { s.layer with
        parameters := s.layer.parameters + 1
        doubleParameters := s.layer.doubleParameters + if s.layer.isDouble then 1 else 0 }
      return { s with layer }.openUp (.parameter name treatment orEmpty)

/-- Commands within backquotes, as they are written without them: a backslash protects itself,
dollar signs and backquotes, and double quotes within those. -/
def readBackquoted (isDouble : Bool) : Nat → Reader (List Char)
  | 0 => return []
  | fuel + 1 => do
    match ← peek with
    | none => fail "EOF in backquote substitution"
    | some '\x60' =>
      skip
      return []
    | some '\\' =>
      skip
      match ← look with
      | none => return '\\' :: (← readBackquoted isDouble fuel)
      | some c =>
        skip
        let rest ← readBackquoted isDouble fuel
        return if c = '\\' ∨ c = '\x60' ∨ c = '$' ∨ (isDouble ∧ c = '"') then c :: rest
          else '\\' :: c :: rest
    | some c =>
      skip
      return c :: (← readBackquoted isDouble fuel)

/-- Where a document ends. -/
structure DocumentEnd where
  /-- the line that ends it, if not only the end of the text does -/
  lastLine : Option (List Char)
  dropsTabs : Bool
  /-- whether anything is special before it -/
  expands : Bool

/-- Whether the text is at the last line of a document, which is skipped then; tabs at the start of
a line are skipped before if asked for. -/
def atDocumentEnd (mark : DocumentEnd) : Reader Bool := do
  if mark.dropsTabs then modify fun r => { r with text := r.text.dropWhile (· == '\t') }
  let text := (← get).text
  match mark.lastLine with
  | some line =>
    if line.isPrefixOf text then
      match text.drop line.length with
      | [] =>
        modify fun r => { r with text := [], line := r.line + 1 }
        return true
      | '\n' :: rest =>
        modify fun r => { r with text := rest, line := r.line + 1 }
        return true
      | _ => return false
    else return false
  | none => return false

/-- What reading a word leads on to. -/
structure Inner where
  /-- commands up to the parenthesis that closes them -/
  commands : Reader (List Command)

def scanDollar (inner : Inner) (s : Scan) : Reader Scan := do
  let c ← peek
  if (← get).expecting.documentEnd then return s.put (.char '$')
  else match c with
    | some '(' =>
      skip
      if ← take? '(' then
        return (s.openUp .arithmetic).push (Layer.start .arithmetic true)
      else
        let commands ← inner.commands
        return s.put (.output commands)
    | some '{' =>
      skip
      scanParameter s true
    | some c => if startsName c || isSpecialName c then scanParameter s false else return s.put (.char '$')
    | none => return s.put (.char '$')

def readApart (inner : Reader (List Command)) (text : List Char) : Reader (List Command) := do
  let before ← get
  let replaced := before.replaced.map fun entry => { entry with behind := 0, goesOn := false }
  set { before with text := text, line := 1, awaited := [], replaced := replaced }
  let commands ← tryCatch inner fun e => throw { e with left := before.text }
  modify fun r => { before with documents := r.documents, nextDocument := r.nextDocument, again := false }
  return commands

/-- Take up the character in front; tells whether the word has ended. -/
def scanStep (inner : Inner) (backquoted : Reader (List Command)) (mark : Option DocumentEnd) (s : Scan) :
    Reader (Scan × Bool) := do
  let isDocument := mark.isSome
  let isRaw := mark.any fun mark => !mark.expands
  match ← if s.layer.quoting = .single then look else peek with
  | none => return (s, true)
  | some c =>
    let quoting := s.layer.quoting
    let put : Reader (Scan × Bool) := do
      skip
      return (s.put (.char c), false)
    if c = '\n' then
      if quoting = .none ∧ s.layer.parameters = 0 then return (s, true)
      skip
      let s := s.put (.char c)
      match mark with
      | some mark => return (s, ← atDocumentEnd mark)
      | none => return (s, false)
    else if quoting = .single then
      skip
      if c = '\'' && !isRaw then
        return ({ s with
          layer := if s.layer.doubleParameters = 0 then { s.layer with quoting := .none, isDouble := false }
            else s.layer
          isQuoted := true }.put .mark, false)
      else return (s.put (if isRaw then .char c else .literal c), false)
    else if c = '\\' then
      skip
      match ← look with
      | none => return (s.put (.literal '\\'), false)
      | some d =>
        skip
        let keeps := s.layer.isDouble && d != '\\' && d != '\x60' && d != '$' &&
          (d != '"' || (isDocument && s.layer.parameters == 0)) && (d != '}' || s.layer.parameters == 0)
        let s := if keeps then s.put (.literal '\\') else s
        return ({ s with isQuoted := true }.put (.literal d), false)
    else if c = '$' then
      skip
      return (← scanDollar inner s, false)
    else if c = '}' then
      skip
      if !s.layer.innerQuotes && 0 < s.layer.parameters then
        let layer : Layer := { s.layer with parameters := s.layer.parameters - 1 }
        let s : Scan := if layer.parameters = 0 ∧ layer.ofParameter then { s with layer }.pop
          else { s with layer := { layer with doubleParameters := layer.doubleParameters - 1 } }
        return (s.closeUp, false)
      else return (s.put (.char c), false)
    else if c = '\x60' then
      skip
      if (← get).expecting.documentEnd then return (s.put (.char c), false)
      else
        let text ← readBackquoted s.layer.isDouble ((← get).text.length + 1)
        return (s.put (.output (← readApart backquoted text)), false)
    else match quoting with
      | .single => put
      | .double =>
        if c = '"' then
          skip
          if isDocument && s.layer.parameters == 0 then return (s.put (.char c), false)
          let layer := if s.layer.doubleParameters = 0 then { s.layer with quoting := .none, isDouble := false }
            else s.layer
          let layer := if 0 < layer.parameters then { layer with innerQuotes := !layer.innerQuotes } else layer
          let s := { s with layer, isQuoted := true }
          return (if isDocument then s else s.put .mark, false)
        else
          skip
          return (s.put (if losesMeaning c then .literal c else .char c), false)
      | .arithmetic =>
        if c = '(' then
          skip
          return ({ s with layer := { s.layer with parentheses := s.layer.parentheses + 1 } }.put (.char c), false)
        else if c = ')' then
          skip
          if 0 < s.layer.parentheses then
            return ({ s with layer := { s.layer with parentheses := s.layer.parentheses - 1 } }.put (.char c),
              false)
          else if ← take? ')' then return (s.pop.closeUp, false)
          else return (s.put (.char c), false)
        else put
      | .none =>
        if c = '\'' then
          skip
          let s := { s with layer := { s.layer with quoting := .single } }
          return (if isDocument then s else s.put .mark, false)
        else if c = '"' then
          skip
          let layer := { s.layer with quoting := .double, isDouble := true }
          let layer := if 0 < layer.parameters then { layer with innerQuotes := !layer.innerQuotes } else layer
          return (if isDocument then { s with layer } else { s with layer }.put .mark, false)
        else if ['<', '>', '(', ')', ';', '&', '|', ' ', '\t'].contains c && s.layer.parameters == 0 then
          return (s, true)
        else put

def scanWord (inner : Inner) (backquoted : Reader (List Command)) (mark : Option DocumentEnd) :
    Nat → Scan → Reader Scan
  | 0, s => return s
  | fuel + 1, s => do
    let (s, ended) ← scanStep inner backquoted mark s
    if ended then return s else scanWord inner backquoted mark fuel s

/-- A word, or a document. -/
def readWord (inner : Inner) (backquoted : Reader (List Command)) (mark : Option DocumentEnd)
    (layer : Layer) : Reader (Word × Bool) := do
  let start : Scan := ⟨layer, [], [], [], false⟩
  let atEnd ← match mark with
    | some mark => atDocumentEnd mark
    | none => pure false
  let s ← if atEnd then pure start
    else scanWord inner backquoted mark ((← get).text.length + 1) start
  if s.layer.quoting = .arithmetic then fail "Missing '))'"
  if s.layer.quoting ≠ .none ∧ mark.isNone then fail "Unterminated quoted string"
  if s.layer.parameters ≠ 0 then fail "Missing '\x7d'"
  return (s.parts.reverse, s.isQuoted)

end PassTuner.Toolbox.Shell

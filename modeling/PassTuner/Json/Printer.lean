import PassTuner.Double.Notation
import PassTuner.Json.Basic

/-! Writing trees of stored data, compactly or indented by two spaces.

Strings escape quotes, backslashes and control characters and nothing else. A float always has
a point or an exponent, so that it reads back as a float; one that is not finite is `null`. -/
namespace PassTuner.Json

def hexDigit (n : Nat) : Char := Nat.digitChar n

def escape (c : Char) : List Char :=
  if c = '"' then ['\\', '"']
  else if c = '\\' then ['\\', '\\']
  else if 0x20 ≤ c.toNat then [c]
  else if c.toNat = 0x08 then ['\\', 'b']
  else if c.toNat = 0x0c then ['\\', 'f']
  else if c = '\n' then ['\\', 'n']
  else if c = '\r' then ['\\', 'r']
  else if c = '\t' then ['\\', 't']
  else ['\\', 'u', '0', '0', hexDigit (c.toNat / 16), hexDigit (c.toNat % 16)]

def stringText (s : String) : List Char := '"' :: (s.toList.flatMap escape ++ ['"'])

def intText (i : Int) : List Char :=
  if i < 0 then '-' :: Double.digitsOf i.natAbs else Double.digitsOf i.natAbs

def floatText (x : Double) : List Char :=
  if x.isFinite then Double.Layout.stored.text x else "null".toList

/-- How the parts of arrays and objects are set apart. -/
inductive Style where
  | compact
  | indented
  deriving DecidableEq

def Style.break (style : Style) (level : Nat) : List Char :=
  match style with
  | .compact => []
  | .indented => '\n' :: List.replicate (2 * level) ' '

def Style.colon : Style → List Char
  | .compact => [':']
  | .indented => [':', ' ']

mutual

/-- The text of a tree that starts at a nesting level. A hole is written as `null`. -/
def write (style : Style) (level : Nat) : Json → List Char
  | .null => "null".toList
  | .bool b => (if b then "true" else "false").toList
  | .int i => intText i
  | .float x => floatText x
  | .string s => stringText s
  | .array [] => ['[', ']']
  | .array (item :: rest) =>
    '[' :: (writeItems style (level + 1) (item :: rest) ++ style.break level ++ [']'])
  | .object [] => ['\x7b', '\x7d']
  | .object (field :: rest) =>
    '\x7b' :: (writeFields style (level + 1) (field :: rest) ++ style.break level ++ ['\x7d'])
  | .fault _ => "null".toList
  termination_by structural j => j

def writeItems (style : Style) (level : Nat) : List Json → List Char
  | [] => []
  | item :: rest =>
    style.break level ++ write style level item ++
      (if rest.isEmpty then [] else ',' :: writeItems style level rest)
  termination_by structural items => items

def writeFields (style : Style) (level : Nat) : List (String × Json) → List Char
  | [] => []
  | field :: rest =>
    style.break level ++ writeField style level field ++
      (if rest.isEmpty then [] else ',' :: writeFields style level rest)
  termination_by structural fields => fields

def writeField (style : Style) (level : Nat) : String × Json → List Char
  | (name, value) => stringText name ++ style.colon ++ write style level value
  termination_by structural field => field

end

/-- The text without any space. -/
def compact (j : Json) : List Char := write .compact 0 j

def pretty (j : Json) : List Char := write .indented 0 j

end PassTuner.Json

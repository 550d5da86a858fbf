import PassTuner.Oracle.Command

/-! Tools: programs as functions of their arguments, their input and the files there are.

They stand for the programs that measuring commands are made of, so that what a command prints can
be computed without a process. All words, names and contents are bytes. -/
namespace PassTuner.Toolbox

open Text (Stream)

/-- Where a tool prints to. -/
inductive Outlet where
  | output
  | errors
  deriving DecidableEq, Repr

/-- What a tool is started with. -/
structure Setting where
  /-- the name that it was called by -/
  name : String
  words : List String
  environment : List (String × String)
  input : Stream
  /-- why the input cannot be read, if it cannot -/
  inputError : Option FileError
  /-- there is no input at all, not even one that cannot be read -/
  inputClosed : Bool
  /-- there is nothing to print on -/
  outputClosed : Bool
  /-- how long the input is, if it is a file -/
  inputSize : Option Nat
  files : Files
  directory : Place

/-- What a tool does: how it ends, what it prints where, what it leaves of its input, how it leaves
the files, and how long it runs; forever, if no time is given. -/
structure Result where
  ending : Ending
  printed : List (Outlet × Stream)
  left : Stream
  files : Files
  milliseconds : Option Nat

abbrev Tool := Setting → Result

namespace Setting

/-- A tool that ends at once, having printed. -/
def finish (s : Setting) (status : Nat) (printed : List (Outlet × Stream)) : Result :=
  ⟨.exited status, printed, s.input, s.files, some 0⟩

def print (s : Setting) (text : List Char) : Result := s.finish 0 [(.output, .ofText text)]

def complaint (s : Setting) (text : String) : Outlet × Stream :=
  (.errors, .ofText (s.name ++ ": " ++ text ++ "\n").toList)

def fail (s : Setting) (status : Nat) (text : String) : Result := s.finish status [s.complaint text]

def isInput (name : String) : Bool := name == "-" || name == "/dev/stdin" || name == "/dev/fd/0"

/-- What an operand holds: the input, or a file. -/
def open? (s : Setting) (name : String) : Except FileError Stream :=
  if isInput name then match s.inputError with
    | some e => .error e
    | none => .ok s.input
  else s.files.read s.directory name

end Setting

namespace Result

/-- The same, with the input taken up. -/
def reading (r : Result) : Result := { r with left := .empty }

def streamOn (r : Result) (outlet : Outlet) : Stream :=
  .join ((r.printed.filter fun chunk => chunk.1 == outlet).map Prod.snd)

end Result

/-- What comes of a tool that works on all of a stream. Nothing does, if the stream has no end. -/
def Setting.onText (s : Setting) (input : Stream) (f : List Char → Result) : Result :=
  if input.isEndless then { s.finish 0 [] with milliseconds := none } else f input.text

namespace Setting

/-- What operands hold, each with its name. The input is there once. -/
def openAll (s : Setting) : List String → List (String × Except FileError Stream)
  | [] => []
  | name :: rest =>
    (name, s.open? name) :: (if isInput name then { s with input := .empty } else s).openAll rest

end Setting

/-- What a tool complains at its end about an input that it has read and cannot close. -/
def Setting.closing (s : Setting) (operands : List String) (title : String) : List (Outlet × Stream) :=
  if s.inputClosed && operands.any Setting.isInput then
    [s.complaint (title ++ ": " ++ FileError.badDescriptor.message)]
  else []

/-- What is left of the input when operands have been read to their end. -/
def Setting.leftBy (s : Setting) (operands : List String) : Stream :=
  if operands.any Setting.isInput then .empty else s.input

/-- Whether something that was opened has no end. -/
def anyEndless (opened : List (String × Except FileError Stream)) : Bool :=
  opened.any fun (_, held) =>
    match held with
    | .ok stream => stream.isEndless
    | .error _ => false

/-- Whether a character stands for itself in a name, in whatever place. -/
def isPlain (c : Char) : Bool :=
  c.isAlphanum || ['%', '+', ',', '-', '.', '/', ':', '@', '_', ']'].contains c

/-- Whether a name is clear without quotes. -/
def isPlainName (name : List Char) : Bool :=
  match name with
  | [] => false
  | ['{'] | ['}'] => false
  | c :: rest =>
    (isPlain c || c == '{' || c == '}') &&
      rest.all fun c => isPlain c || ['#', '~', '{', '}'].contains c

/-- How a byte is escaped that is not printable ASCII. -/
def escapedByte? (c : Char) : Option (List Char) :=
  let letters : List (Char × Char) :=
    [('\x07', 'a'), ('\x08', 'b'), ('\x0c', 'f'), ('\n', 'n'), ('\r', 'r'), ('\t', 't'), ('\x0b', 'v')]
  match letters.lookup c with
  | some letter => some ['\\', letter]
  | none =>
    if c.toNat < 0x20 ∨ 0x7f ≤ c.toNat then
      let digits := Nat.toDigits 8 c.toNat
      some ('\\' :: (List.replicate (3 - digits.length) '0' ++ digits))
    else none

/-- A name in quotes, with all that is not printable ASCII escaped. -/
def quoteName (name : String) : String :=
  let quoted := name.toList.flatMap fun c =>
    if c = '\'' ∨ c = '\\' then ['\\', c] else (escapedByte? c).getD [c]
  "'" ++ String.ofList quoted ++ "'"

/-- The inside of a name in quotes that a shell reads back. Escapes stand in quotes of their own,
and `escaping` says whether these are open. -/
def quotedInside : (escaping : Bool) → List Char → List Char
  | _, [] => []
  | escaping, c :: rest =>
    if c = '\'' then ['\'', '\\', '\'', '\''] ++ quotedInside false rest
    else match escapedByte? c with
      | some escaped => (if escaping then [] else ['\'', '$', '\'']) ++ escaped ++ quotedInside true rest
      | none => (if escaping then ['\'', '\''] else []) ++ c :: quotedInside false rest

/-- A name in quotes that a shell reads back; in double ones, if it holds single quotes and nothing
else that needs care. -/
def quoteForShell (name : String) : String :=
  let bytes := name.toList
  if bytes.contains '\'' && bytes.all fun c => isPlain c || c == ' ' || c == '\'' then
    "\"" ++ name ++ "\""
  else "'" ++ String.ofList (quotedInside false bytes) ++ "'"

/-- A name as it is, or in quotes that a shell reads back if that would not be clear. -/
def quoteWord (name : String) : String := if isPlainName name.toList then name else quoteForShell name

/-- A name as it is, or in quotes if that would not be clear where a colon follows. -/
def quoteFile (name : String) : String :=
  if name.toList.contains ':' then quoteForShell name else quoteWord name

end PassTuner.Toolbox

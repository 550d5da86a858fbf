/-! Streams of bytes: what programs read and print. -/
namespace PassTuner.Text

/-- Bytes, then others that come again and again, if there are any. -/
structure Stream where
  text : List Char
  again : List Char
  deriving DecidableEq, Repr, Inhabited

namespace Stream

def empty : Stream := ⟨[], []⟩

def ofText (text : List Char) : Stream := ⟨text, []⟩

def isEndless (s : Stream) : Bool := !s.again.isEmpty

/-- One stream after another. Nothing follows an endless one. -/
def append (s t : Stream) : Stream := if s.isEndless then s else ⟨s.text ++ t.text, t.again⟩

def join (streams : List Stream) : Stream := streams.foldl append empty

def unrolled (s : Stream) (count : Nat) : List Char :=
  if s.isEndless then s.text ++ (List.replicate count s.again).flatten else s.text

end Stream

end PassTuner.Text

/-! The text of a span of time, given in milliseconds. -/
namespace PassTuner.Text

/-- Digits of a fraction of a thousand, without trailing zeros. -/
def thousandths (n : Nat) : String :=
  if n % 1000 = 0 then ""
  else if n % 100 = 0 then "." ++ toString (n / 100)
  else if n % 10 = 0 then "." ++ String.ofList (List.replicate (2 - (toString (n / 10)).length) '0') ++
    toString (n / 10)
  else "." ++ String.ofList (List.replicate (3 - (toString n).length) '0') ++ toString n

/-- Whole milliseconds below a second, seconds with the digits needed from there on. -/
def duration (milliseconds : Nat) : String :=
  if milliseconds = 0 then "0ns"
  else if milliseconds < 1000 then toString milliseconds ++ "ms"
  else toString (milliseconds / 1000) ++ thousandths (milliseconds % 1000) ++ "s"

end PassTuner.Text

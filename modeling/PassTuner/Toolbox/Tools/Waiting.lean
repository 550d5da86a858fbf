import PassTuner.Toolbox.Tools.Printing

/-! Waiting. -/
namespace PassTuner.Toolbox

def unitSeconds? : List Char → Option Nat
  | [] | ['s'] => some 1
  | ['m'] => some 60
  | ['h'] => some 3600
  | ['d'] => some 86400
  | _ => none

/-- The milliseconds of an interval: a number that is not negative, in seconds or the unit that
follows it; nothing inside stands for an interval without end. -/
def interval? (word : String) : Option (Option Nat) := do
  let ((q, _), rest) ← Quantity.read? .double word.toList
  let unit ← unitSeconds? rest
  match q with
  | .undefined _ => none
  | .infinite negative => if negative then none else some none
  | .finite negative significand exponent =>
    if negative && significand != 0 then none
    else
      let (num, den) := Quantity.ratio significand exponent
      some (some ((num * unit * 1000 + den - 1) / den))

def sleep : Tool := fun s =>
  match splitOptions aboutOptions true s.words with
  | .error e => s.fail 1 (e ++ "\n" ++ helpHint s.name)
  | .ok (options, words) =>
    match options.about? "sleep", words with
    | some text, _ => s.print text
    | none, [] =>
      if s.words.isEmpty then s.fail 1 ("missing operand\n" ++ helpHint s.name) else s.finish 0 []
    | none, words =>
      let wrong := words.filter fun word => (interval? word).isNone
      if wrong.isEmpty then
        let waits := words.filterMap interval?
        { s.finish 0 [] with
          milliseconds := if waits.contains none then none
            else some ((waits.filterMap id).foldl (· + ·) 0) }
      else
        s.finish 1 ((wrong.map fun word => s.complaint ("invalid time interval " ++ quoteName word)) ++
          [(.errors, .ofText (helpHint s.name ++ "\n").toList)])

end PassTuner.Toolbox

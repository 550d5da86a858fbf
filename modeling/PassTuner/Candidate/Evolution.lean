import PassTuner.Candidate.Basic
import PassTuner.Formula.Evolution
import PassTuner.Formula.Simplification

/-! Changing candidates at random: some entries evolve, and missing ones are drawn.

Both steps return what they leave behind together with their outcome. A score belongs to the
content it was observed for, so a step that changed anything resets it; one that failed halfway
keeps the changes made so far. -/
namespace PassTuner.Candidate

/-- Distinct elements chosen by offsets into what is left: the first element takes the place of
the one that is chosen. -/
def chooseAt {α : Type} : List α → List Nat → List α
  | [], _ => []
  | _, [] => []
  | x :: rest, 0 :: offsets => x :: chooseAt rest offsets
  | x :: rest, (offset + 1) :: offsets =>
    match rest[offset]? with
    | some chosen => chosen :: chooseAt (rest.set offset x) offsets
    | none => x :: chooseAt rest offsets
  termination_by structural _ offsets => offsets

/-- Offsets for so many choices among `left` elements, each drawn evenly. -/
def drawOffsets : (choices left : Nat) → StateM Random (List Nat)
  | 0, _ => return []
  | choices + 1, left => do
    let offset ← Random.below left
    let more ← drawOffsets choices (left - 1)
    return offset :: more

/-- How many of `size` entries a rate stands for: rounded, a half up. -/
def quantity (rate : Double) (size : Nat) : Nat :=
  min size (rate.clamp .zero .one * Double.ofNat size).roundToNat

/-- Apply a step to the entries at the chosen indices, in order, and simplify what it returns.
The first failure ends the round. -/
def evolveEntries {σ : Type} (step : Formula → Evolving σ (Changed Formula)) (chosen : List Nat) :
    Nat → List Entry → Evolving σ (Changed (List Entry))
  | _, [] => return ([], .ok ())
  | index, (point, f) :: rest => do
    if chosen.contains index then
      match ← step f with
      | (changed, .error e) => return ((point, changed) :: rest, .error e)
      | (changed, .ok ()) =>
        let (others, outcome) ← evolveEntries step chosen (index + 1) rest
        return ((point, changed.simplified) :: others, outcome)
    else
      let (others, outcome) ← evolveEntries step chosen (index + 1) rest
      return ((point, f) :: others, outcome)

/-- Evolve a share of the entries, chosen evenly; the result is their number. -/
def evolveWith {σ : Type} (step : Formula → Evolving σ (Changed Formula)) (rate : Double)
    (c : Candidate) : Evolving σ (Candidate × Except FormulaError Nat) := do
  let n := quantity rate c.size
  if n = 0 then return (c, .ok 0)
  else
    let offsets ← (drawOffsets n c.size : StateM Random (List Nat))
    let (entries, outcome) ← evolveEntries step (chooseAt (List.range c.size) offsets) 0 c.entries
    match outcome with
    | .error e => return ({ c with entries := entries }, .error e)
    | .ok () => return ({ c with entries := entries }.unscored, .ok n)

def evolve {σ : Type} (strategy : Strategy σ) (features : FeatureSource) (grammar : Grammar)
    (rate : Double) (c : Candidate) : Evolving σ (Candidate × Except FormulaError Nat) :=
  evolveWith (Formula.evolve strategy features grammar 0) rate c

/-- Draw a simplified formula for every point that has none; also how many were added. -/
def fillMissing (features : FeatureSource) (grammar : Grammar) :
    List DecisionPoint → Candidate → Nat → StateM Random (Candidate × Except FormulaError Nat)
  | [], c, added => return (if added = 0 then c else c.unscored, .ok added)
  | point :: rest, c, added => do
    if (c.get? point.name).isSome then fillMissing features grammar rest c added
    else match ← (Formula.generate features grammar point.type).run with
      | .error e => return (c, .error e)
      | .ok f =>
        let entries := Sorted.upsert placeOrder (point, f.simplified) c.entries
        fillMissing features grammar rest { c with entries := entries } (added + 1)

def generateMissing (features : FeatureSource) (grammar : Grammar) (points : List DecisionPoint)
    (c : Candidate) : StateM Random (Candidate × Except FormulaError Nat) :=
  fillMissing features grammar points c 0

end PassTuner.Candidate

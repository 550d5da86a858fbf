import PassTuner.Decision.Basic
import PassTuner.Double.Rounding
import PassTuner.Formula.Display
import PassTuner.Formula.Evaluation
import PassTuner.Formula.Order

/-! Candidates: a formula for each decision point, and a running score.

Candidates are compared by content alone, shorter ones first; score and count take no part, so a
candidate stays itself while its score moves. -/
namespace PassTuner

/-- A decision point and its formula. -/
abbrev Entry := DecisionPoint × Formula

/-- Formulas for decision points, in name order, with the mean of the fitness values observed
and their number. -/
structure Candidate where
  entries : List Entry
  score : Double
  count : Nat
  deriving DecidableEq, Repr, Inhabited

namespace Candidate

def empty : Candidate := ⟨[], .zero, 0⟩

def size (c : Candidate) : Nat := c.entries.length

/-- Names decide the place of an entry. -/
def placeOrder (a b : Entry) : Ordering := a.1.order b.1

/-- Name first, then formula. -/
def entryOrder (a b : Entry) : Ordering := (a.1.order b.1).then (a.2.order b.2)

/-- Entry by entry; the shorter list first if one begins the other. -/
def entriesOrder : List Entry → List Entry → Ordering
  | [], [] => .eq
  | [], _ :: _ => .lt
  | _ :: _, [] => .gt
  | a :: as, b :: bs => (entryOrder a b).then (entriesOrder as bs)

/-- Number of entries first, then the entries in turn. -/
def order (a b : Candidate) : Ordering :=
  (compare a.entries.length b.entries.length).then (entriesOrder a.entries b.entries)

def get? (c : Candidate) (name : String) : Option Formula :=
  (c.entries.find? fun entry => entry.1.name == name).map Prod.snd

/-- The same content with nothing observed. -/
def unscored (c : Candidate) : Candidate := { c with score := .zero, count := 0 }

/-- Set the formula of a point, whose type it must have. -/
def insert (c : Candidate) (point : DecisionPoint) (f : Formula) : Except FormulaError Candidate :=
  if f.type = point.type then
    .ok { c with entries := Sorted.upsert placeOrder (point, f) c.entries }
  else .error (.typeMismatch point.type f.type)

def isComplete (points : List DecisionPoint) (c : Candidate) : Bool :=
  points.all fun point => (c.get? point.name).isSome

/-- The mean of `count` values, and one more. -/
def runningMean (score : Double) (count : Nat) (fitness : Double) : Double :=
  (Double.ofNat count * score + fitness) / (Double.ofNat count + .one)

def observe (c : Candidate) (fitness : Double) : Candidate :=
  { c with score := runningMean c.score c.count fitness, count := c.count + 1 }

/-- Whether an entry fits the active points: its name is active, with its type, which is also
that of its formula. -/
def isActive (points : List DecisionPoint) (entry : Entry) : Bool :=
  match DecisionPoint.find? points entry.1.name with
  | some active => active.type == entry.1.type && entry.2.type == active.type
  | none => false

/-- Drop entries that do not fit the active points; also their number. -/
def retain (points : List DecisionPoint) (c : Candidate) : Candidate × Nat :=
  let kept := c.entries.filter (isActive points)
  ({ c with entries := kept }, c.entries.length - kept.length)

/-- Evaluate entries in turn, up to the first that has no value. -/
def decideEntries (features : FeatureSource) : List Entry → Decisions → Except EvalError Decisions
  | [], d => .ok d
  | (point, f) :: rest, d => do
    let value ← f.solve features
    decideEntries features rest (d.insert point.name value)

def decide (features : FeatureSource) (c : Candidate) : Except EvalError Decisions :=
  decideEntries features c.entries .empty

/-- The text of a candidate: its score, then a line per entry. -/
def display (c : Candidate) : String :=
  "score=" ++ String.ofList (c.score.fixed 4) ++ " count=" ++ toString c.count ++ "\n" ++
    String.join (c.entries.map fun (point, f) => "  " ++ point.name ++ " = " ++ f.display ++ "\n")

end Candidate

end PassTuner

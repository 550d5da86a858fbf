import PassTuner.Sorted
import PassTuner.Value.Basic

/-! Decision points and decisions.

A decision point is a typed name: an optimization, or one argument of it under a marked name.
Points are one and the same if their names are. Decisions give each name a value. -/
namespace PassTuner

/-- One choice of the search space. -/
structure DecisionPoint where
  name : String
  type : ValueType
  deriving DecidableEq, Repr, Inhabited

namespace DecisionPoint

def argumentMark : Char := '~'

def isArgumentName (name : String) : Bool := name.toList.head? == some argumentMark

def argumentName (optimization : String) (index : Nat) : String :=
  String.singleton argumentMark ++ optimization ++ "." ++ toString index

def flag (optimization : String) : DecisionPoint := ⟨optimization, .bool⟩

def argument (optimization : String) (index : Nat) (type : ValueType) : DecisionPoint :=
  ⟨argumentName optimization index, type⟩

def isArgument (point : DecisionPoint) : Bool := isArgumentName point.name

def order (a b : DecisionPoint) : Ordering := compare a.name b.name

def display (point : DecisionPoint) : String := point.name ++ ": " ++ point.type.name

/-- A set of points in name order; of two with one name the first stays. -/
def collect (points : List DecisionPoint) : List DecisionPoint :=
  points.foldl (fun kept point => Sorted.insertNew order point kept) []

def find? (points : List DecisionPoint) (name : String) : Option DecisionPoint :=
  points.find? fun point => point.name == name

end DecisionPoint

/-- A value for each decision name, in name order. -/
structure Decisions where
  entries : List (String × Value)
  deriving DecidableEq, Repr, Inhabited

namespace Decisions

def empty : Decisions := ⟨[]⟩

def entryOrder (a b : String × Value) : Ordering := compare a.1 b.1

/-- Set a decision, in place of one that has the name already. -/
def insert (d : Decisions) (name : String) (value : Value) : Decisions :=
  ⟨Sorted.upsert entryOrder (name, value) d.entries⟩

def ofList (entries : List (String × Value)) : Decisions :=
  entries.foldl (fun d (name, value) => d.insert name value) empty

def get? (d : Decisions) (name : String) : Option Value :=
  (d.entries.find? fun entry => entry.1 == name).map Prod.snd

/-- Whether an optimization is switched on; one without a decision is not. -/
def isEnabled (d : Decisions) (optimization : String) : Bool :=
  d.get? optimization == some (.bool true)

def argument? (d : Decisions) (optimization : String) (index : Nat) : Option Value :=
  d.get? (DecisionPoint.argumentName optimization index)

/-- The optimizations switched on, in name order. -/
def enabled (d : Decisions) : List String :=
  (d.entries.filter fun entry =>
    !DecisionPoint.isArgumentName entry.1 && entry.2 == .bool true).map Prod.fst

def size (d : Decisions) : Nat := d.entries.length

end Decisions

end PassTuner

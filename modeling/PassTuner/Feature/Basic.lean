import PassTuner.Sorted
import PassTuner.Value.Basic

/-! The measured features of a program, which formulas refer to.

A `FeatureSource` is all that formulas and the generator see of them; a `FeatureSet` is a table
in the order of the references. -/
namespace PassTuner

/-- The name of a feature, with the part meant if it has parts. -/
structure FeatureRef where
  name : String
  sub : String
  deriving DecidableEq, Repr, Inhabited

namespace FeatureRef

def order (a b : FeatureRef) : Ordering := (compare a.name b.name).then (compare a.sub b.sub)

def display (r : FeatureRef) : String := if r.sub.isEmpty then r.name else r.name ++ "[" ++ r.sub ++ "]"

end FeatureRef

/-- Why the value of a feature is not available. -/
inductive FeatureError where
  | unknown (feature : FeatureRef)
  | wrongType (feature : FeatureRef) (expected actual : ValueType)
  deriving DecidableEq, Repr

/-- Read-only access to features: typed look-up, and the references of each type by index. -/
structure FeatureSource where
  lookup : FeatureRef → ValueType → Except FeatureError Value
  count : ValueType → Nat
  nth : Nat → ValueType → Option FeatureRef

/-- A table of features in the order of their references. -/
structure FeatureSet where
  entries : List (FeatureRef × Value)
  deriving DecidableEq, Repr, Inhabited

namespace FeatureSet

def empty : FeatureSet := ⟨[]⟩

def entryOrder (a b : FeatureRef × Value) : Ordering := a.1.order b.1

def insert (set : FeatureSet) (feature : FeatureRef) (value : Value) : FeatureSet :=
  ⟨Sorted.upsert entryOrder (feature, value) set.entries⟩

/-- Entries inserted in turn: a later one replaces an earlier one of the same reference. -/
def ofList (entries : List (FeatureRef × Value)) : FeatureSet :=
  entries.foldl (fun set (feature, value) => set.insert feature value) empty

def size (set : FeatureSet) : Nat := set.entries.length

def find? (set : FeatureSet) (feature : FeatureRef) : Option Value :=
  (set.entries.find? fun entry => entry.1 == feature).map Prod.snd

/-- The value of a feature, if it has the type that is asked for. -/
def lookup (set : FeatureSet) (feature : FeatureRef) (ty : ValueType) : Except FeatureError Value :=
  match set.find? feature with
  | none => .error (.unknown feature)
  | some value =>
    if value.type = ty then .ok value else .error (.wrongType feature ty value.type)

/-- The references of one type, in order. -/
def ofType (set : FeatureSet) (ty : ValueType) : List FeatureRef :=
  (set.entries.filter fun entry => entry.2.type == ty).map Prod.fst

def count (set : FeatureSet) (ty : ValueType) : Nat := (set.ofType ty).length

def nth (set : FeatureSet) (index : Nat) (ty : ValueType) : Option FeatureRef := (set.ofType ty)[index]?

def source (set : FeatureSet) : FeatureSource := ⟨set.lookup, set.count, set.nth⟩

instance : Coe FeatureSet FeatureSource := ⟨source⟩

end FeatureSet

end PassTuner

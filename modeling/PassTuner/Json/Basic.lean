import PassTuner.Double.Basic

/-! Trees of stored data.

A tree that comes from a text may have holes: places where the text stops following the grammar,
and places that follow it but name nothing that can be held (a lone surrogate, a number out of
range, nesting beyond the limit). Decoding walks a tree in the order of its text, so the first
fault of a text is the one that counts. Nothing follows a place where the grammar fails. -/
namespace PassTuner

/-- Why a place of a text has no value. -/
inductive Json.Fault where
  /-- the text does not follow the grammar from here on -/
  | broken
  /-- the text follows the grammar, but the value cannot be held -/
  | unreadable
  /-- the name of this field cannot be held -/
  | unreadableName
  deriving DecidableEq, Repr

/-- A tree of stored data. Integers lie between the least signed and the greatest unsigned
64-bit number. -/
inductive Json where
  | null
  | bool (b : Bool)
  | int (i : Int)
  | float (x : Double)
  | string (s : String)
  | array (items : List Json)
  | object (fields : List (String × Json))
  | fault (why : Json.Fault)
  deriving Inhabited

namespace Json

mutual

/-- Whether no fault of the given kinds lies anywhere in the tree. -/
def free (kinds : Fault → Bool) : Json → Bool
  | .fault why => !kinds why
  | .array items => freeItems kinds items
  | .object fields => freeFields kinds fields
  | _ => true
  termination_by structural j => j

def freeItems (kinds : Fault → Bool) : List Json → Bool
  | [] => true
  | item :: rest => item.free kinds && freeItems kinds rest
  termination_by structural items => items

def freeFields (kinds : Fault → Bool) : List (String × Json) → Bool
  | [] => true
  | field :: rest => freeField kinds field && freeFields kinds rest
  termination_by structural fields => fields

def freeField (kinds : Fault → Bool) : String × Json → Bool
  | (_, value) => value.free kinds
  termination_by structural field => field

end

/-- A value may be passed over if its text follows the grammar. -/
def skippable (j : Json) : Bool := j.free (· == .broken)

/-- A value without any hole. -/
def readable (j : Json) : Bool := j.free fun _ => true

end Json

end PassTuner

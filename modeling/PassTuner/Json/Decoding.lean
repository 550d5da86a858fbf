import PassTuner.Double.Rounding
import PassTuner.Json.Reader

/-! From trees of stored data to values.

Objects are decoded field by field in the order of the text, so that the first fault decides.
A record may also be given as an array of its fields in their order of writing. -/
namespace PassTuner

/-- Why a text is refused. Only two faults have a text of their own. -/
inductive ReadError where
  | malformed
  | unknownTypeTag (tag : Nat)
  | unknownArgumentType (name : String)
  deriving DecidableEq, Repr

def ReadError.message? : ReadError → Option String
  | .malformed => none
  | .unknownTypeTag tag => some ("unknown value type tag " ++ toString tag)
  | .unknownArgumentType name => some ("unknown argument type: " ++ name)

namespace Json

/-- A decoder from trees. -/
abbrev Decoder (α : Type) := Json → Except ReadError α

def refuse {α : Type} : Except ReadError α := .error .malformed

def asString : Decoder String
  | .string s => .ok s
  | _ => refuse

def asBool : Decoder Bool
  | .bool b => .ok b
  | _ => refuse

/-- Any number, rounded to a double if it is an integer. -/
def asDouble : Decoder Double
  | .int i => .ok (Double.ofInt i)
  | .float x => .ok x
  | _ => refuse

def asNat (bound : Nat) : Decoder Nat
  | .int i => if 0 ≤ i ∧ i ≤ bound then .ok i.toNat else refuse
  | _ => refuse

/-- A natural number of 64 bits. -/
def asWord : Decoder Nat := asNat 0xffffffffffffffff

def asInt64 : Decoder Int64
  | .int i => if Int64.minValue.toInt ≤ i ∧ i ≤ Int64.maxValue.toInt then .ok (.ofInt i) else refuse
  | _ => refuse

/-- A value that may be absent, written as `null`. -/
def optional {α : Type} (decode : Decoder α) : Decoder (Option α)
  | .null => .ok none
  | j => (decode j).map some

def decodeItems {α : Type} (decode : Decoder α) : List Json → Except ReadError (List α)
  | [] => .ok []
  | item :: rest => do
    let first ← decode item
    let others ← decodeItems decode rest
    .ok (first :: others)

def asArray {α : Type} (decode : Decoder α) : Decoder (List α)
  | .array items => decodeItems decode items
  | _ => refuse

/-- One known field of a record that is being put together: the place of its value in `σ`. -/
structure Slot (υ σ : Type) where
  name : String
  required : Bool
  store : υ → σ → Except ReadError σ

def Slot.of {α σ : Type} (name : String) (required : Bool) (decode : Decoder α)
    (put : α → σ → σ) : Slot Json σ :=
  ⟨name, required, fun j s => (decode j).map fun a => put a s⟩

/-- Fill the slots from fields in text order. A known name may occur once; what stands under
any other name is passed over as `skip` allows. Returns the names met, too. -/
def fillFields {υ σ : Type} (slots : List (Slot υ σ)) (skip : υ → Except ReadError Unit) :
    List (String × υ) → List String → σ → Except ReadError (List String × σ)
  | [], met, s => .ok (met, s)
  | (name, value) :: rest, met, s =>
    match slots.find? (·.name == name) with
    | none => do
      skip value
      fillFields slots skip rest met s
    | some slot =>
      if met.contains name then refuse
      else do
        let s ← slot.store value s
        fillFields slots skip rest (name :: met) s

def fillItems {υ σ : Type} : List (Slot υ σ) → List υ → σ → Except ReadError σ
  | [], [], s => .ok s
  | [], _ :: _, _ => refuse
  | slot :: slots, [], s => if slot.required then refuse else fillItems slots [] s
  | slot :: slots, item :: items, s => do
    let s ← slot.store item s
    fillItems slots items s

def allMet {υ σ : Type} (slots : List (Slot υ σ)) (met : List String) : Bool :=
  slots.all fun slot => !slot.required || met.contains slot.name

def skip (j : Json) : Except ReadError Unit := if j.skippable then .ok () else refuse

/-- Pass over a field under an unknown name; a name that cannot be held spoils its object. -/
def skipNamed (j : Json) : Except ReadError Unit :=
  match j with
  | .fault .unreadableName => refuse
  | other => skip other

/-- Decode a record, starting from blanks and defaults. -/
def record {σ : Type} (slots : List (Slot Json σ)) (blank : σ) : Decoder σ
  | .object fields => do
    let (met, s) ← fillFields slots skipNamed fields [] blank
    if allMet slots met then .ok s else refuse
  | .array items => fillItems slots items blank
  | _ => refuse

/-- Decode a whole text: the tree first, then that nothing follows it. -/
def decodeText {α : Type} (decode : Decoder α) (text : String) : Except ReadError α := do
  let (tree, ended) := read text.toList
  let a ← decode tree
  if ended then .ok a else refuse

end Json

end PassTuner

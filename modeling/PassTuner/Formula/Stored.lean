import PassTuner.Formula.Record
import PassTuner.Value.Stored

/-! Formula records in stored data: objects with the declared type, the kind and the fields of
that kind.

All fields but the type are read whole before the kind is looked at, so a hole anywhere in them
refuses the record. Fields of another kind are passed over. -/
namespace PassTuner.FormulaRecord

def toJson : FormulaRecord → Json
  | .literal declared value =>
    .object [("type", declared.toJson), ("kind", .string "literal"), ("value", value.toJson)]
  | .arithmetic declared op lhs rhs =>
    .object [("type", declared.toJson), ("kind", .string "arithmetic"), ("op", .string op.symbol),
      ("lhs", lhs.toJson), ("rhs", rhs.toJson)]
  | .boolean declared operandType op lhs rhs =>
    .object [("type", declared.toJson), ("kind", .string "boolean"),
      ("op_type", operandType.toJson), ("op", .string op.symbol), ("lhs", lhs.toJson),
      ("rhs", rhs.toJson)]
  | .conditional declared condition whenTrue whenFalse =>
    .object [("type", declared.toJson), ("kind", .string "conditional"),
      ("cond", condition.toJson), ("then", whenTrue.toJson), ("else", whenFalse.toJson)]
  | .feature declared ref =>
    .object [("type", declared.toJson), ("kind", .string "feature"), ("feature", .string ref.name),
      ("sub", .string ref.sub)]

def kindName : FormulaKind → String
  | .literal => "literal"
  | .arithmetic => "arithmetic"
  | .boolean => "boolean"
  | .conditional => "conditional"
  | .feature => "feature"

/-- A kind, given by its name or by its place among the kinds. -/
def kindOfJson : Json.Decoder FormulaKind
  | .string name =>
    match FormulaKind.all.find? fun kind => kindName kind == name with
    | some kind => .ok kind
    | none => Json.refuse
  | .int i =>
    match FormulaKind.all.find? fun kind => (kind.rank : Int) == i with
    | some kind => .ok kind
    | none => Json.refuse
  | _ => Json.refuse

/-- An operator, given by its symbol alone or as the only name of an object without content. -/
def symbolOfJson {α : Type} (ofSymbol? : String → Option α) : Json.Decoder α
  | .string symbol | .object [(symbol, .null)] | .object [(symbol, .object [])] =>
    match ofSymbol? symbol with
    | some op => .ok op
    | none => Json.refuse
  | _ => Json.refuse

/-- A field value: the tree, and what it gives when it is decoded as a record. -/
structure Part where
  tree : Json
  asRecord : Except ReadError FormulaRecord

/-- The fields of a record as far as they have been read. -/
structure Parts where
  value : Option Value := none
  arithOp : Option ArithOp := none
  boolOp : Option BoolOp := none
  operandType : Option ValueType := none
  lhs : Option FormulaRecord := none
  rhs : Option FormulaRecord := none
  condition : Option FormulaRecord := none
  whenTrue : Option FormulaRecord := none
  whenFalse : Option FormulaRecord := none
  feature : Option String := none
  sub : Option String := none

def treeSlot {α : Type} (name : String) (decode : Json.Decoder α) (put : α → Parts → Parts) :
    Json.Slot Part Parts :=
  ⟨name, false, fun part parts => (decode part.tree).map fun a => put a parts⟩

def recordSlot (name : String) (put : FormulaRecord → Parts → Parts) : Json.Slot Part Parts :=
  ⟨name, false, fun part parts => part.asRecord.map fun r => put r parts⟩

def slots : FormulaKind → List (Json.Slot Part Parts)
  | .literal => [treeSlot "value" Value.ofJson fun v parts => { parts with value := some v }]
  | .arithmetic =>
    [treeSlot "op" (symbolOfJson ArithOp.ofSymbol?) fun op parts => { parts with arithOp := some op },
     recordSlot "lhs" fun r parts => { parts with lhs := some r },
     recordSlot "rhs" fun r parts => { parts with rhs := some r }]
  | .boolean =>
    [treeSlot "op_type" ValueType.ofJson fun ty parts => { parts with operandType := some ty },
     treeSlot "op" (symbolOfJson BoolOp.ofSymbol?) fun op parts => { parts with boolOp := some op },
     recordSlot "lhs" fun r parts => { parts with lhs := some r },
     recordSlot "rhs" fun r parts => { parts with rhs := some r }]
  | .conditional =>
    [recordSlot "cond" fun r parts => { parts with condition := some r },
     recordSlot "then" fun r parts => { parts with whenTrue := some r },
     recordSlot "else" fun r parts => { parts with whenFalse := some r }]
  | .feature =>
    [treeSlot "feature" Json.asString fun name parts => { parts with feature := some name },
     treeSlot "sub" Json.asString fun sub parts => { parts with sub := some sub }]

/-- The record of a kind, if all that it needs is there; only the sub-feature may be missing. -/
def ofParts? (declared : ValueType) (kind : FormulaKind) (parts : Parts) : Option FormulaRecord :=
  match kind with
  | .literal => do return .literal declared (← parts.value)
  | .arithmetic => do return .arithmetic declared (← parts.arithOp) (← parts.lhs) (← parts.rhs)
  | .boolean => do
    return .boolean declared (← parts.operandType) (← parts.boolOp) (← parts.lhs) (← parts.rhs)
  | .conditional => do
    return .conditional declared (← parts.condition) (← parts.whenTrue) (← parts.whenFalse)
  | .feature => do return .feature declared ⟨← parts.feature, parts.sub.getD ""⟩

/-- Read the declared type where it stands, and check that all other fields have no hole. -/
def declaredType : List (String × Part) → Option ValueType → Except ReadError (Option ValueType)
  | [], found => .ok found
  | (name, part) :: rest, found =>
    if name = "type" then
      if found.isSome then Json.refuse
      else do
        let ty ← ValueType.ofJson part.tree
        declaredType rest (some ty)
    else if part.tree.readable then declaredType rest found
    else Json.refuse

/-- The kind among the fields, which may be given once. -/
def declaredKind (fields : List (String × Part)) : Except ReadError FormulaKind :=
  match fields.filter fun field => field.1 == "kind" with
  | [(_, part)] => kindOfJson part.tree
  | _ => Json.refuse

def ofFields (fields : List (String × Part)) : Except ReadError FormulaRecord := do
  match ← declaredType fields none with
  | none => Json.refuse
  | some declared => do
    let kind ← declaredKind fields
    let (_, parts) ← Json.fillFields (slots kind) (fun _ => .ok ()) fields [] {}
    match ofParts? declared kind parts with
    | some record => .ok record
    | none => Json.refuse

mutual

/-- Decode a record; each field is decoded as a record once, whether or not its kind needs it. -/
def ofJson : Json → Except ReadError FormulaRecord
  | .object fields => ofFields (partsOf fields)
  | _ => Json.refuse
  termination_by structural j => j

def partsOf : List (String × Json) → List (String × Part)
  | [] => []
  | field :: rest => partOf field :: partsOf rest
  termination_by structural fields => fields

def partOf : String × Json → String × Part
  | (name, tree) => (name, ⟨tree, ofJson tree⟩)
  termination_by structural field => field

end

def parse (text : String) : Except ReadError FormulaRecord := Json.decodeText ofJson text

def compact (r : FormulaRecord) : String := String.ofList r.toJson.compact

end PassTuner.FormulaRecord

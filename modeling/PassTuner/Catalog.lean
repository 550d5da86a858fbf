import PassTuner.Decision.Basic
import PassTuner.Value.Stored

/-! The catalog of optimizations, from which the decision points of a search come. -/
namespace PassTuner

/-- A named argument of an optimization. -/
structure ArgumentSlot where
  name : String
  type : ValueType
  deriving DecidableEq, Repr, Inhabited

/-- An optimization that the compile step can apply. -/
structure Optimization where
  name : String
  arguments : List ArgumentSlot
  deriving DecidableEq, Repr, Inhabited

/-- The known optimizations, in the order they were listed. -/
structure Catalog where
  optimizations : List Optimization
  deriving DecidableEq, Repr, Inhabited

/-- Why a catalog cannot be searched. -/
inductive CatalogError where
  | emptyName
  | duplicate (name : String)
  | stringArgument (argument optimization : String)
  deriving DecidableEq, Repr

def CatalogError.message : CatalogError → String
  | .emptyName => "optimization names must not be empty"
  | .duplicate name => "duplicate optimization: " ++ name
  | .stringArgument argument optimization =>
    "argument " ++ argument ++ " of " ++ optimization ++
      " is a string; only int, float and bool arguments can be searched"

namespace Optimization

/-- The points of an optimization: its flag, and one per argument if arguments are searched. -/
def points (parameterized : Bool) (o : Optimization) : List DecisionPoint :=
  DecisionPoint.flag o.name ::
    if parameterized then
      o.arguments.mapIdx fun index slot => DecisionPoint.argument o.name index slot.type
    else []

def toJson (o : Optimization) : Json :=
  .object [("name", .string o.name), ("arguments", .array (o.arguments.map fun slot =>
    .object [("name", .string slot.name), ("type", .string slot.type.name)]))]

def typeOfJson (j : Json) : Except ReadError ValueType := do
  let name ← Json.asString j
  match ValueType.ofName? name with
  | some type => .ok type
  | none => .error (.unknownArgumentType name)

def slotOfJson : Json.Decoder ArgumentSlot :=
  Json.record
    [.of "name" true Json.asString fun name slot => { slot with name := name },
     .of "type" true typeOfJson fun type slot => { slot with type := type }]
    ⟨"", .int⟩

def ofJson : Json.Decoder Optimization :=
  Json.record
    [.of "name" true Json.asString fun name o => { o with name := name },
     .of "arguments" false (Json.asArray slotOfJson) fun arguments o =>
       { o with arguments := arguments }]
    ⟨"", []⟩

end Optimization

namespace Catalog

/-- A small list of common passes, for use where no catalog is given. -/
def default : Catalog :=
  ⟨[⟨"sroa", []⟩, ⟨"instcombine", []⟩, ⟨"simplifycfg", []⟩, ⟨"inline", [⟨"threshold", .int⟩]⟩,
    ⟨"gvn", []⟩, ⟨"licm", []⟩, ⟨"loop-rotate", []⟩,
    ⟨"loop-unroll", [⟨"count", .int⟩, ⟨"allow-partial", .bool⟩]⟩,
    ⟨"loop-vectorize", [⟨"width", .int⟩]⟩, ⟨"slp-vectorize", []⟩, ⟨"tailcallelim", []⟩,
    ⟨"dce", []⟩]⟩

def get? (catalog : Catalog) (name : String) : Option Optimization :=
  catalog.optimizations.find? fun o => o.name == name

def size (catalog : Catalog) : Nat := catalog.optimizations.length

/-- The decision points of a search over the catalog, in name order. -/
def decisionPoints (parameterized : Bool) (catalog : Catalog) : List DecisionPoint :=
  DecisionPoint.collect (catalog.optimizations.flatMap (Optimization.points parameterized))

/-- Check optimizations in turn, given the names before them. -/
def validateFrom : List String → List Optimization → Except CatalogError Unit
  | _, [] => .ok ()
  | seen, o :: rest =>
    if o.name.isEmpty then .error .emptyName
    else if seen.contains o.name then .error (.duplicate o.name)
    else match o.arguments.find? fun slot => slot.type == .string with
      | some slot => .error (.stringArgument slot.name o.name)
      | none => validateFrom (o.name :: seen) rest

/-- Whether formulas can be drawn for every point: names are there and differ, and no argument
is a string. -/
def validate (catalog : Catalog) : Except CatalogError Unit := validateFrom [] catalog.optimizations

def toJson (catalog : Catalog) : Json := .array (catalog.optimizations.map Optimization.toJson)

def ofJson (j : Json) : Except ReadError Catalog := (Json.asArray Optimization.ofJson j).map Catalog.mk

def parse (text : String) : Except ReadError Catalog := Json.decodeText ofJson text

end Catalog

end PassTuner

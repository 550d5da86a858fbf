import PassTuner.Double.Arithmetic
import PassTuner.Formula.Basic
import PassTuner.Random

/-! Drawing formulas from the weighted grammar.

The kind of a node is drawn among those its type allows, features only where the program has some
of that type, and leaves only where the greatest depth is reached. Recursion is on the levels
that are left. A failed draw still has used up its part of the random stream. -/
namespace PassTuner

/-- The limits of drawn formulas. -/
structure Grammar where
  /-- nodes at this depth, counted from the root, are leaves -/
  maxDepth : Nat
  /-- integer literals go from zero up to this one -/
  intLiteralMax : Int64
  /-- float literals go from zero up to but not including this one -/
  floatLiteralMax : Double
  deriving DecidableEq, Repr

def Grammar.default : Grammar := ⟨6, 64, Double.ofNat 64⟩

/-- A draw that can fail; the random stream moves on either way. -/
abbrev Gen := ExceptT FormulaError (StateM Random)

def Gen.draw {α : Type} (draw : StateM Random α) : Gen α := ExceptT.lift draw

namespace FormulaKind

def ofType : ValueType → List FormulaKind
  | .int | .float => [.literal, .arithmetic, .conditional, .feature]
  | .bool => [.literal, .boolean, .conditional]
  | .string => []

def allowed (features : FeatureSource) (type : ValueType) (leavesOnly : Bool) : List FormulaKind :=
  (ofType type).filter fun kind =>
    (!leavesOnly || kind.isLeaf) && (kind != .feature || decide (0 < features.count type))

def totalWeight (kinds : List FormulaKind) : Nat :=
  kinds.foldl (fun total kind => total + kind.weight) 0

/-- The first kind at which the weights add up to the draw. -/
def roulette : List FormulaKind → Nat → FormulaKind
  | [], _ => .literal
  | kind :: rest, draw => if draw ≤ kind.weight then kind else roulette rest (draw - kind.weight)

def draw (features : FeatureSource) (type : ValueType) (leavesOnly : Bool) : Gen FormulaKind :=
  if type = .string then throw (.unsupportedGeneration type)
  else do
    let kinds := allowed features type leavesOnly
    let offset ← Gen.draw (Random.below32 (totalWeight kinds))
    return roulette kinds (1 + offset)

end FormulaKind

namespace Formula

def drawValue (grammar : Grammar) : ValueType → Gen Value
  | .int => do
    let i ← Gen.draw (Random.between 0 (max grammar.intLiteralMax.toInt 0))
    return .int (.ofInt i)
  | .float => do
    let x ← Gen.draw Random.double
    return .float (x * grammar.floatLiteralMax)
  | .bool => do
    let b ← Gen.draw Random.bool
    return .bool b
  | .string => throw (.unsupportedGeneration .string)

def drawFeature (features : FeatureSource) (type : ValueType) : Gen Formula := do
  let index ← Gen.draw (Random.below (features.count type))
  match features.nth index type with
  | some ref => return .feature type ref
  | none => throw (.unsupportedGeneration type)

def drawLeaf (features : FeatureSource) (grammar : Grammar) (type : ValueType) :
    FormulaKind → Gen Formula
  | .feature => drawFeature features type
  | _ => do
    let value ← drawValue grammar type
    return .literal value

/-- An element drawn evenly from a list that is not empty. -/
def drawFrom {α : Type} (fallback : α) (choices : List α) : StateM Random α := do
  let index ← Random.below choices.length
  return choices.getD index fallback

/-- Draw a formula of a type with so many levels left below its root. -/
def generateWithin (features : FeatureSource) (grammar : Grammar) : Nat → ValueType → Gen Formula
  | 0, type => do
    let kind ← FormulaKind.draw features type true
    drawLeaf features grammar type kind
  | room + 1, type => do
    match ← FormulaKind.draw features type false with
    | .arithmetic => do
      let op ← Gen.draw (drawFrom .add ArithOp.all)
      let lhs ← generateWithin features grammar room type
      let rhs ← generateWithin features grammar room type
      liftExcept (arithmetic? op lhs rhs)
    | .boolean => do
      let operandType := if ← Gen.draw Random.bool then ValueType.bool else .int
      let op ← Gen.draw (drawFrom .eq (BoolOp.forOperand operandType))
      let lhs ← generateWithin features grammar room operandType
      let rhs ← generateWithin features grammar room operandType
      liftExcept (boolean? op lhs rhs)
    | .conditional => do
      let condition ← generateWithin features grammar room .bool
      let whenTrue ← generateWithin features grammar room type
      let whenFalse ← generateWithin features grammar room type
      liftExcept (conditional? condition whenTrue whenFalse)
    | leaf => drawLeaf features grammar type leaf
where
  /-- The result of a checked constructor as a draw. -/
  liftExcept (result : Except FormulaError Formula) : Gen Formula := ExceptT.mk (pure result)

/-- Draw a formula of a type whose root lies at a depth. -/
def generateAt (features : FeatureSource) (grammar : Grammar) (type : ValueType) (depth : Nat) :
    Gen Formula :=
  generateWithin features grammar (grammar.maxDepth - depth) type

def generate (features : FeatureSource) (grammar : Grammar) (type : ValueType) : Gen Formula :=
  generateAt features grammar type 0

end Formula

end PassTuner

import PassTuner.Formula.Generation

/-! Evolving formulas in place.

A `Strategy` says what happens at an interior node and how literals and references change. What
is left after a failed step is returned together with the failure, so that it can be seen what
the step has changed. -/
namespace PassTuner

/-- A step with a strategy's own state and the random stream. -/
abbrev Evolving (σ : Type) := StateT σ (StateM Random)

/-- What a step leaves behind, and whether it went well. -/
abbrev Changed (α : Type) := α × Except FormulaError Unit

/-- How formulas change. -/
structure Strategy (σ : Type) where
  /-- for a node with so many children: the child to change, counted from zero, and whether it
  is drawn afresh rather than entered; nothing to leave the node alone -/
  move : Nat → Evolving σ (Option (Nat × Bool))
  changeValue : Value → Evolving σ Value
  changeFeature : FeatureSource → ValueType → FeatureRef → Evolving σ FeatureRef

namespace Formula

/-- Draw a formula of the same type in place of this one; on failure it stays. -/
def regrow {σ : Type} (features : FeatureSource) (grammar : Grammar) (depth : Nat) (f : Formula) :
    Evolving σ (Changed Formula) := do
  match ← (generateAt features grammar f.type depth).run with
  | .ok drawn => return (drawn, .ok ())
  | .error e => return (f, .error e)

def evolve {σ : Type} (strategy : Strategy σ) (features : FeatureSource) (grammar : Grammar) :
    Nat → Formula → Evolving σ (Changed Formula)
  | _, .literal value => do
    let value ← strategy.changeValue value
    return (.literal value, .ok ())
  | _, .feature type ref => do
    let ref ← strategy.changeFeature features type ref
    return (.feature type ref, .ok ())
  | depth, .arithmetic type op lhs rhs => do
    match ← strategy.move 2 with
    | none => return (.arithmetic type op lhs rhs, .ok ())
    | some (0, afresh) =>
      let (lhs, outcome) ← if afresh then regrow features grammar (depth + 1) lhs
        else lhs.evolve strategy features grammar (depth + 1)
      return (.arithmetic type op lhs rhs, outcome)
    | some (_, afresh) =>
      let (rhs, outcome) ← if afresh then regrow features grammar (depth + 1) rhs
        else rhs.evolve strategy features grammar (depth + 1)
      return (.arithmetic type op lhs rhs, outcome)
  | depth, .boolean operandType op lhs rhs => do
    match ← strategy.move 2 with
    | none => return (.boolean operandType op lhs rhs, .ok ())
    | some (0, afresh) =>
      let (lhs, outcome) ← if afresh then regrow features grammar (depth + 1) lhs
        else lhs.evolve strategy features grammar (depth + 1)
      return (.boolean operandType op lhs rhs, outcome)
    | some (_, afresh) =>
      let (rhs, outcome) ← if afresh then regrow features grammar (depth + 1) rhs
        else rhs.evolve strategy features grammar (depth + 1)
      return (.boolean operandType op lhs rhs, outcome)
  | depth, .conditional type condition whenTrue whenFalse => do
    match ← strategy.move 3 with
    | none => return (.conditional type condition whenTrue whenFalse, .ok ())
    | some (0, afresh) =>
      let (condition, outcome) ← if afresh then regrow features grammar (depth + 1) condition
        else condition.evolve strategy features grammar (depth + 1)
      return (.conditional type condition whenTrue whenFalse, outcome)
    | some (1, afresh) =>
      let (whenTrue, outcome) ← if afresh then regrow features grammar (depth + 1) whenTrue
        else whenTrue.evolve strategy features grammar (depth + 1)
      return (.conditional type condition whenTrue whenFalse, outcome)
    | some (_, afresh) =>
      let (whenFalse, outcome) ← if afresh then regrow features grammar (depth + 1) whenFalse
        else whenFalse.evolve strategy features grammar (depth + 1)
      return (.conditional type condition whenTrue whenFalse, outcome)

end Formula

namespace Strategy

/-- Twice an integer, kept within 64 signed bits. -/
def saturatedDouble (i : Int64) : Int :=
  max Int64.minValue.toInt (min Int64.maxValue.toInt (2 * i.toInt))

/-- Change a literal: an integer is drawn between zero and its double, a float is scaled by a
factor between zero and two, a boolean is flipped. -/
def mutateValue : Value → StateM Random Value
  | .int i => do
    let doubled := saturatedDouble i
    let drawn ← Random.between (min doubled 0) (max doubled 0)
    return .int (.ofInt drawn)
  | .float x => do
    let drawn ← Random.double
    return .float (x * (.two * drawn))
  | .bool b => return .bool (!b)
  | .string s => return .string s

/-- Draw another reference of the type, if there is any. -/
def mutateFeature (features : FeatureSource) (type : ValueType) (ref : FeatureRef) :
    StateM Random FeatureRef := do
  if features.count type = 0 then return ref
  else
    let index ← Random.below (features.count type)
    return (features.nth index type).getD ref

/-- One child is chosen evenly; with the given probability it is drawn afresh, otherwise it is
entered. -/
def subtreeMutation {σ : Type} (probability : Double) : Strategy σ where
  move children := do
    if children = 0 then return none
    else
      let child ← Random.below children
      let drawn ← Random.double
      return some (child, drawn.lt (probability.clamp .zero .one))
  changeValue value := mutateValue value
  changeFeature features type ref := mutateFeature features type ref

/-- Flip boolean literals, leave all else alone, and count how often the strategy is asked. -/
def flipping : Strategy Nat where
  move _ := do
    modify (· + 1)
    return none
  changeValue value := do
    modify (· + 1)
    match value with
    | .bool b => return .bool (!b)
    | other => return other
  changeFeature _ _ ref := do
    modify (· + 1)
    return ref

end Strategy

end PassTuner

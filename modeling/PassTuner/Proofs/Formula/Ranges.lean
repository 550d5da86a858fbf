import PassTuner.Proofs.Formula.Typing

/-! The ranges that formulas are drawn from.

`roll` is the generator over any dice. Over the dice that the random stream throws it is the
generator that runs; strict dice give nothing at all if they are asked for an element of an empty
range. Both come to the same, whatever is drawn, so no range is ever empty. -/
namespace PassTuner

/-- The draws that a generator can ask for. -/
structure Dice (m : Type → Type) where
  below : Nat → m Nat
  below32 : Nat → m Nat
  between : Int → Int → m Int
  bool : m Bool
  double : m Double

namespace Dice

def stream : Dice (StateM Random) where
  below := Random.below
  below32 := Random.below32
  between := Random.between
  bool := Random.bool
  double := Random.double

/-- A draw that goes ahead only if there is something to draw. -/
def granted {α : Type} (some : Prop) [Decidable some] (draw : StateM Random α) :
    StateT Random Option α :=
  fun random => if some then .some (draw.run random) else none

def strict : Dice (StateT Random Option) where
  below bound := granted (0 < bound) (Random.below bound)
  below32 bound := granted (0 < bound) (Random.below32 bound)
  between lo hi := granted (lo ≤ hi) (Random.between lo hi)
  bool := granted True Random.bool
  double := granted True Random.double

end Dice

namespace Formula

section Rolling

variable {m : Type → Type} [Monad m] (dice : Dice m) (features : FeatureSource) (grammar : Grammar)

def rollKind (type : ValueType) (leavesOnly : Bool) : ExceptT FormulaError m FormulaKind :=
  if type = .string then throw (.unsupportedGeneration type)
  else do
    let kinds := FormulaKind.allowed features type leavesOnly
    let offset ← ExceptT.lift (dice.below32 (FormulaKind.totalWeight kinds))
    return FormulaKind.roulette kinds (1 + offset)

def rollValue : ValueType → ExceptT FormulaError m Value
  | .int => do
    let i ← ExceptT.lift (dice.between 0 (max grammar.intLiteralMax.toInt 0))
    return .int (.ofInt i)
  | .float => do
    let x ← ExceptT.lift dice.double
    return .float (x * grammar.floatLiteralMax)
  | .bool => do
    let b ← ExceptT.lift dice.bool
    return .bool b
  | .string => throw (.unsupportedGeneration .string)

def rollFeature (type : ValueType) : ExceptT FormulaError m Formula := do
  let index ← ExceptT.lift (dice.below (features.count type))
  match features.nth index type with
  | some ref => return .feature type ref
  | none => throw (.unsupportedGeneration type)

def rollLeaf (type : ValueType) : FormulaKind → ExceptT FormulaError m Formula
  | .feature => rollFeature dice features type
  | _ => do
    let value ← rollValue dice grammar type
    return .literal value

def rollFrom {α : Type} (fallback : α) (choices : List α) : m α := do
  let index ← dice.below choices.length
  return choices.getD index fallback

def roll : Nat → ValueType → ExceptT FormulaError m Formula
  | 0, type => do
    let kind ← rollKind dice features type true
    rollLeaf dice features grammar type kind
  | room + 1, type => do
    match ← rollKind dice features type false with
    | .arithmetic => do
      let op ← ExceptT.lift (rollFrom dice .add ArithOp.all)
      let lhs ← roll room type
      let rhs ← roll room type
      ExceptT.mk (pure (arithmetic? op lhs rhs))
    | .boolean => do
      let operandType := if ← ExceptT.lift dice.bool then ValueType.bool else .int
      let op ← ExceptT.lift (rollFrom dice .eq (BoolOp.forOperand operandType))
      let lhs ← roll room operandType
      let rhs ← roll room operandType
      ExceptT.mk (pure (boolean? op lhs rhs))
    | .conditional => do
      let condition ← roll room .bool
      let whenTrue ← roll room type
      let whenFalse ← roll room type
      ExceptT.mk (pure (conditional? condition whenTrue whenFalse))
    | leaf => rollLeaf dice features grammar type leaf

end Rolling

theorem rollStream (features : FeatureSource) (grammar : Grammar) (room : Nat) (type : ValueType) :
    roll .stream features grammar room type = generateWithin features grammar room type := by
  induction room generalizing type with
  | zero => rfl
  | succ room ih =>
    rw [roll, generateWithin]
    simp only [ih]
    rfl

/-- Whatever the stream, the strict draw goes ahead, and as the other. -/
def Follows {α : Type} (strict : ExceptT FormulaError (StateT Random Option) α) (draw : Gen α) :
    Prop := ∀ random, strict.run.run random = some (draw.run.run random)

namespace Follows

variable {α β : Type} {first : ExceptT FormulaError (StateT Random Option) α} {draw : Gen α}
variable {more : α → ExceptT FormulaError (StateT Random Option) β} {next : α → Gen β}

theorem pure (a : α) : Follows (Pure.pure a) (Pure.pure a) := fun _ => rfl

theorem throw (e : FormulaError) : Follows (α := α) (MonadExcept.throw e) (MonadExcept.throw e) :=
  fun _ => rfl

theorem checked (result : Except FormulaError Formula) :
    Follows (ExceptT.mk (Pure.pure result)) (generateWithin.liftExcept result) := fun _ => rfl

theorem bind (start : Follows first draw)
    (rest : ∀ a random moved, draw.run.run random = (.ok a, moved) → Follows (more a) (next a)) :
    Follows (first >>= more) (draw >>= next) := by
  intro random
  rw [Gen.runBind, ExceptT.run_bind, StateT.run_bind, start random]
  rcases drawn : draw.run.run random with ⟨_ | a, moved⟩
  · rfl
  · exact rest a random moved drawn moved

theorem granted {some : Prop} [Decidable some] {draw : StateM Random α} (holds : some)
    (rest : ∀ a, Follows (more a) (next a)) :
    Follows (ExceptT.lift (Dice.granted some draw) >>= more) (Gen.draw draw >>= next) := by
  refine bind (fun random => ?_) fun a _ _ _ => rest a
  have asked : Dice.granted some draw random = .some (draw.run random) := if_pos holds
  change (Dice.granted some draw random >>= fun drawn =>
    Option.some ((.ok drawn.1, drawn.2) : Except FormulaError α × Random)) = _
  rw [asked]
  rfl

end Follows

theorem rollFromStrict {α : Type} (fallback : α) (choices : List α) :
    rollFrom .strict fallback choices =
      Dice.granted (0 < choices.length) (drawFrom fallback choices) := by
  funext random
  change (Dice.granted _ _ random >>= fun drawn => .some (choices.getD drawn.1 fallback, drawn.2)) = _
  rw [Dice.granted, Dice.granted]
  split <;> rfl

theorem weightLeast (kinds : List FormulaKind) (start : Nat) :
    start ≤ kinds.foldl (fun total kind => total + kind.weight) start := by
  induction kinds generalizing start with
  | nil => exact Nat.le_refl _
  | cons kind rest ih => exact Nat.le_trans (Nat.le_add_right _ _) (ih _)

theorem weightMember {kinds : List FormulaKind} {kind : FormulaKind} (mem : kind ∈ kinds)
    (start : Nat) :
    start + kind.weight ≤ kinds.foldl (fun total kind => total + kind.weight) start := by
  induction mem generalizing start with
  | head rest => exact weightLeast rest _
  | tail other mem ih =>
    exact Nat.le_trans (Nat.add_le_add_right (Nat.le_add_right _ _) _) (ih (start + other.weight))

variable {features : FeatureSource} {grammar : Grammar} {type : ValueType}

theorem weightPositive (leavesOnly : Bool) (drawable : type ≠ .string) :
    0 < FormulaKind.totalWeight (FormulaKind.allowed features type leavesOnly) := by
  have literal := FormulaKind.literalAllowed features leavesOnly drawable
  exact Nat.lt_of_lt_of_le (by decide) (weightMember literal 0)

theorem rollKindStrict (leavesOnly : Bool) :
    Follows (rollKind .strict features type leavesOnly)
      (FormulaKind.draw features type leavesOnly) := by
  rw [rollKind, FormulaKind.draw]
  by_cases text : type = .string
  · rw [if_pos text, if_pos text]
    exact .throw _
  · rw [if_neg text, if_neg text]
    exact .granted (weightPositive leavesOnly text) fun _ => .pure _

theorem rollValueStrict : Follows (rollValue .strict grammar type) (drawValue grammar type) := by
  cases type with
  | int => exact .granted (Int.le_max_right _ _) fun _ => .pure _
  | float => exact .granted trivial fun _ => .pure _
  | bool => exact .granted trivial fun _ => .pure _
  | string => exact .throw _

theorem rollFeatureStrict (some : 0 < features.count type) :
    Follows (rollFeature .strict features type) (drawFeature features type) := by
  refine .granted some fun index => ?_
  cases features.nth index type with
  | none => exact .throw _
  | some ref => exact .pure _

theorem rollLeafStrict {kind : FormulaKind} {leavesOnly : Bool}
    (allowed : kind ∈ FormulaKind.allowed features type leavesOnly) :
    Follows (rollLeaf .strict features grammar type kind) (drawLeaf features grammar type kind) := by
  cases kind with
  | feature => exact rollFeatureStrict (FormulaKind.allowedFeature allowed).2
  | _ => exact rollValueStrict.bind fun _ _ _ _ => .pure _

theorem rollStrict (room : Nat) (type : ValueType) :
    Follows (roll .strict features grammar room type)
      (generateWithin features grammar room type) := by
  induction room generalizing type with
  | zero =>
    exact (rollKindStrict true).bind fun kind _ _ drawn => rollLeafStrict (drawnAllowed drawn)
  | succ room ih =>
    refine (rollKindStrict false).bind fun kind _ _ drawn => ?_
    cases kind with
    | literal => exact rollLeafStrict (drawnAllowed drawn)
    | feature => exact rollLeafStrict (drawnAllowed drawn)
    | arithmetic =>
      dsimp only
      rw [rollFromStrict]
      exact .granted (by decide) fun op => (ih type).bind fun lhs _ _ _ =>
        (ih type).bind fun rhs _ _ _ => .checked _
    | boolean =>
      refine .granted trivial fun choice => ?_
      generalize (if choice then ValueType.bool else .int) = operandType
      dsimp only
      rw [rollFromStrict]
      have some : 0 < (BoolOp.forOperand operandType).length := by cases operandType <;> decide
      exact .granted some fun op => (ih operandType).bind fun lhs _ _ _ =>
        (ih operandType).bind fun rhs _ _ _ => .checked _
    | conditional =>
      exact (ih .bool).bind fun condition _ _ _ => (ih type).bind fun whenTrue _ _ _ =>
        (ih type).bind fun whenFalse _ _ _ => .checked _

end Formula

end PassTuner

import PassTuner.Formula.Generation
import PassTuner.Proofs.Random

/-! What the grammar can draw.

A draw that `Yields` gives a result from every stream. `Grown` has one case for each kind of node
that may be drawn; `generateYields` is the one place where the generator is opened. -/
namespace PassTuner

/-- A source that names a feature at every index below its count. -/
def FeatureSource.Indexed (features : FeatureSource) : Prop :=
  ∀ type index, index < features.count type → ∃ ref, features.nth index type = some ref

theorem FeatureSet.sourceIndexed (set : FeatureSet) : set.source.Indexed := by
  intro type index inside
  exact ⟨(set.ofType type)[index], List.getElem?_eq_getElem inside⟩

namespace Gen

variable {α β : Type} {post : α → Prop}

/-- The draw succeeds from every stream, with a result as stated. -/
def Yields (draw : Gen α) (post : α → Prop) : Prop :=
  ∀ random, ∃ a rest, draw.run.run random = (.ok a, rest) ∧ post a

theorem yieldsPure {a : α} (holds : post a) : Yields (pure a) post :=
  fun random => ⟨a, random, rfl, holds⟩

theorem yieldsBind {goal : β → Prop} {draw : Gen α} {next : α → Gen β} (first : Yields draw post)
    (continues : ∀ a, post a → Yields (next a) goal) : Yields (draw >>= next) goal := by
  intro random
  obtain ⟨a, middle, drawn, holds⟩ := first random
  obtain ⟨b, rest, continued, reached⟩ := continues a holds middle
  refine ⟨b, rest, ?_, reached⟩
  change (ExceptT.run (draw >>= next)).run random = _
  rw [ExceptT.run_bind, StateT.run_bind, drawn]
  exact continued

theorem yieldsDraw {draw : StateM Random α} {next : α → Gen β} {goal : β → Prop}
    (continues : ∀ random, Yields (next (draw.run random).1) goal) :
    Yields (Gen.draw draw >>= next) goal :=
  fun random => continues random (draw.run random).2

theorem runDraw (draw : StateM Random α) (next : α → Gen β) (random : Random) :
    (Gen.draw draw >>= next).run.run random =
      (next (draw.run random).1).run.run (draw.run random).2 := rfl

theorem runBind (draw : Gen α) (next : α → Gen β) (random : Random) :
    (draw >>= next).run.run random =
      match draw.run.run random with
      | (.ok a, moved) => (next a).run.run moved
      | (.error e, moved) => (.error e, moved) := by
  change (ExceptT.run (draw >>= next)).run random = _
  rw [ExceptT.run_bind, StateT.run_bind]
  rcases draw.run.run random with ⟨_ | _, moved⟩ <;> rfl

/-- What comes behind a draw, if it went well. -/
def following (drawn : Except FormulaError α × Random) (next : Random → List β) : List β :=
  match drawn with
  | (.error _, _) => []
  | (.ok _, moved) => next moved

theorem followingMem {drawn : Except FormulaError α × Random} {next : Random → List β} {b : β}
    (mem : b ∈ following drawn next) : ∃ moved, b ∈ next moved := by
  rcases drawn with ⟨_ | a, moved⟩
  · contradiction
  · exact ⟨moved, mem⟩

theorem bindOk {draw : Gen α} {next : α → Gen β} {random rest : Random} {b : β}
    (ran : (draw >>= next).run.run random = (.ok b, rest)) :
    ∃ a moved, draw.run.run random = (.ok a, moved) ∧ (next a).run.run moved = (.ok b, rest) := by
  rw [runBind] at ran
  rcases drawn : draw.run.run random with ⟨_ | a, moved⟩
  · rw [drawn] at ran
    cases ran
  · rw [drawn] at ran
    exact ⟨a, moved, rfl, ran⟩

end Gen

namespace FormulaKind

theorem rouletteCases (kinds : List FormulaKind) (offset : Nat) :
    roulette kinds offset = .literal ∨ roulette kinds offset ∈ kinds := by
  induction kinds generalizing offset with
  | nil => exact .inl rfl
  | cons kind rest ih =>
    simp only [roulette]
    split
    · exact .inr List.mem_cons_self
    · exact (ih _).imp_right (List.mem_cons_of_mem _)

theorem literalAllowed (features : FeatureSource) {type : ValueType} (leavesOnly : Bool)
    (drawable : type ≠ .string) : .literal ∈ allowed features type leavesOnly := by
  cases type <;> simp [allowed, ofType, isLeaf] at drawable ⊢

theorem drawYields {features : FeatureSource} {type : ValueType} (leavesOnly : Bool)
    (drawable : type ≠ .string) :
    (draw features type leavesOnly).Yields (· ∈ allowed features type leavesOnly) := by
  rw [draw, if_neg drawable]
  refine Gen.yieldsDraw fun random => Gen.yieldsPure ?_
  rcases rouletteCases (allowed features type leavesOnly) _ with leaf | inside
  · rw [leaf]
    exact literalAllowed features leavesOnly drawable
  · exact inside

theorem allowedArithmetic {features : FeatureSource} {type : ValueType} {leavesOnly : Bool}
    (mem : .arithmetic ∈ allowed features type leavesOnly) : type.isNumeric := by
  cases type <;> simp [allowed, ofType] at mem ⊢ <;> rfl

theorem allowedBoolean {features : FeatureSource} {type : ValueType} {leavesOnly : Bool}
    (mem : .boolean ∈ allowed features type leavesOnly) : type = .bool := by
  cases type <;> simp [allowed, ofType] at mem ⊢

theorem allowedFeature {features : FeatureSource} {type : ValueType} {leavesOnly : Bool}
    (mem : .feature ∈ allowed features type leavesOnly) :
    type.isNumeric ∧ 0 < features.count type := by
  cases type <;> simp [allowed, ofType] at mem ⊢ <;> exact ⟨rfl, mem.2⟩

end FormulaKind

namespace Formula

/-- The formulas of a type that can be drawn with so many levels left below the root. -/
inductive Grown (features : FeatureSource) (grammar : Grammar) : Nat → ValueType → Formula → Prop
  | int {room : Nat} {i : Int} (lower : 0 ≤ i) (upper : i ≤ max grammar.intLiteralMax.toInt 0) :
      Grown features grammar room .int (.literal (.int (.ofInt i)))
  | float {room : Nat} (random : Random) :
      Grown features grammar room .float
        (.literal (.float ((Random.double.run random).1 * grammar.floatLiteralMax)))
  | bool {room : Nat} (b : Bool) : Grown features grammar room .bool (.literal (.bool b))
  | feature {room index : Nat} {type : ValueType} {ref : FeatureRef} (numeric : type.isNumeric)
      (found : features.nth index type = some ref) :
      Grown features grammar room type (.feature type ref)
  | arithmetic {room : Nat} {type : ValueType} {op : ArithOp} {lhs rhs : Formula}
      (numeric : type.isNumeric) (left : Grown features grammar room type lhs)
      (right : Grown features grammar room type rhs) :
      Grown features grammar (room + 1) type (.arithmetic type op lhs rhs)
  | boolean {room : Nat} {operandType : ValueType} {op : BoolOp} {lhs rhs : Formula}
      (operand : operandType = .bool ∨ operandType = .int) (defined : op.isDefinedFor operandType)
      (left : Grown features grammar room operandType lhs)
      (right : Grown features grammar room operandType rhs) :
      Grown features grammar (room + 1) .bool (.boolean operandType op lhs rhs)
  | conditional {room : Nat} {type : ValueType} {condition whenTrue whenFalse : Formula}
      (test : Grown features grammar room .bool condition)
      (onTrue : Grown features grammar room type whenTrue)
      (onFalse : Grown features grammar room type whenFalse) :
      Grown features grammar (room + 1) type (.conditional type condition whenTrue whenFalse)

variable {features : FeatureSource} {grammar : Grammar} {room : Nat} {type : ValueType}

theorem Grown.hasType {f : Formula} (grown : Grown features grammar room type f) :
    f.type = type := by
  cases grown <;> rfl

theorem literalYields (drawable : type ≠ .string) :
    (drawValue grammar type).Yields fun value =>
      Grown features grammar room type (.literal value) := by
  cases type with
  | int =>
    refine Gen.yieldsDraw fun random => Gen.yieldsPure ?_
    obtain ⟨lower, upper⟩ :=
      Random.betweenBounds (Int.le_max_right grammar.intLiteralMax.toInt 0) random
    exact .int lower upper
  | float => exact Gen.yieldsDraw fun random => Gen.yieldsPure (.float random)
  | bool => exact Gen.yieldsDraw fun random => Gen.yieldsPure (.bool _)
  | string => contradiction

theorem featureYields (indexed : features.Indexed) (numeric : type.isNumeric)
    (some : 0 < features.count type) :
    (drawFeature features type).Yields (Grown features grammar room type) := by
  refine Gen.yieldsDraw fun random => ?_
  obtain ⟨ref, found⟩ := indexed type _ (Random.belowBound some random)
  simp only [found]
  exact Gen.yieldsPure (.feature numeric found)

theorem leafYields (indexed : features.Indexed) (drawable : type ≠ .string) {kind : FormulaKind}
    {leavesOnly : Bool} (allowed : kind ∈ FormulaKind.allowed features type leavesOnly) :
    (drawLeaf features grammar type kind).Yields (Grown features grammar room type) := by
  by_cases feature : kind = .feature
  · subst feature
    obtain ⟨numeric, some⟩ := FormulaKind.allowedFeature allowed
    exact featureYields indexed numeric some
  · have literal : drawLeaf features grammar type kind =
        (drawValue grammar type >>= fun value => pure (.literal value)) := by
      cases kind <;> first | contradiction | rfl
    rw [literal]
    exact Gen.yieldsBind (literalYields drawable) fun _ grown => Gen.yieldsPure grown

theorem drawFromMem {α : Type} (fallback : α) {choices : List α} (some : 0 < choices.length)
    (random : Random) : ((drawFrom fallback choices).run random).1 ∈ choices := by
  have inside := Random.belowBound some random
  change choices.getD ((Random.below choices.length).run random).1 fallback ∈ choices
  rw [List.getD_eq_getElem?_getD, List.getElem?_eq_getElem inside, Option.getD_some]
  exact List.getElem_mem inside

theorem arithmeticYields {op : ArithOp} {lhs rhs : Formula} (numeric : type.isNumeric)
    (left : Grown features grammar room type lhs) (right : Grown features grammar room type rhs) :
    (generateWithin.liftExcept (arithmetic? op lhs rhs)).Yields
      (Grown features grammar (room + 1) type) := by
  rw [arithmetic?, left.hasType, right.hasType, if_pos ⟨rfl, numeric⟩]
  exact Gen.yieldsPure (.arithmetic numeric left right)

theorem booleanYields {operandType : ValueType} {op : BoolOp} {lhs rhs : Formula}
    (operand : operandType = .bool ∨ operandType = .int) (defined : op.isDefinedFor operandType)
    (left : Grown features grammar room operandType lhs)
    (right : Grown features grammar room operandType rhs) :
    (generateWithin.liftExcept (boolean? op lhs rhs)).Yields
      (Grown features grammar (room + 1) .bool) := by
  rw [boolean?, left.hasType, right.hasType, if_neg (not_not_intro rfl), if_pos defined]
  exact Gen.yieldsPure (.boolean operand defined left right)

theorem conditionalYields {condition whenTrue whenFalse : Formula}
    (test : Grown features grammar room .bool condition)
    (onTrue : Grown features grammar room type whenTrue)
    (onFalse : Grown features grammar room type whenFalse) :
    (generateWithin.liftExcept (conditional? condition whenTrue whenFalse)).Yields
      (Grown features grammar (room + 1) type) := by
  rw [conditional?, test.hasType, onTrue.hasType, onFalse.hasType, if_neg (not_not_intro rfl),
    if_neg (not_not_intro rfl)]
  exact Gen.yieldsPure (.conditional test onTrue onFalse)

theorem generateYields (indexed : features.Indexed) (drawable : type ≠ .string) :
    (generateWithin features grammar room type).Yields (Grown features grammar room type) := by
  induction room generalizing type with
  | zero =>
    exact Gen.yieldsBind (FormulaKind.drawYields true drawable) fun kind allowed =>
      leafYields indexed drawable allowed
  | succ room ih =>
    refine Gen.yieldsBind (FormulaKind.drawYields false drawable) fun kind allowed => ?_
    cases kind with
    | literal => exact leafYields indexed drawable allowed
    | feature => exact leafYields indexed drawable allowed
    | arithmetic =>
      have numeric := FormulaKind.allowedArithmetic allowed
      exact Gen.yieldsDraw fun random => Gen.yieldsBind (ih drawable) fun lhs left =>
        Gen.yieldsBind (ih drawable) fun rhs right => arithmeticYields numeric left right
    | boolean =>
      cases FormulaKind.allowedBoolean allowed
      -- comparisons are drawn over booleans and integers, never over strings
      refine Gen.yieldsDraw fun random => ?_
      generalize choice :
        (if (Random.bool.run random).1 then ValueType.bool else .int) = operandType
      have operand : operandType = .bool ∨ operandType = .int := by
        subst choice
        split <;> simp
      have some : 0 < (BoolOp.forOperand operandType).length := by
        rcases operand with rfl | rfl <;> decide
      have comparable : operandType ≠ .string := by
        rcases operand with rfl | rfl <;> decide
      refine Gen.yieldsDraw fun random => Gen.yieldsBind (ih comparable) fun lhs left =>
        Gen.yieldsBind (ih comparable) fun rhs right => ?_
      have defined := drawFromMem .eq some random
      exact booleanYields operand (List.contains_iff_mem.mpr defined) left right
    | conditional =>
      exact Gen.yieldsBind (ih (by decide)) fun condition test =>
        Gen.yieldsBind (ih drawable) fun whenTrue onTrue =>
          Gen.yieldsBind (ih drawable) fun whenFalse onFalse =>
            conditionalYields test onTrue onFalse

theorem generateString (random : Random) :
    (generateWithin features grammar room .string).run.run random =
      (.error (.unsupportedGeneration .string), random) := by
  cases room <;> rfl

end Formula

end PassTuner

import PassTuner.Proofs.Formula.Heredity

/-! Formulas without anything to fold.

A node can be folded if it is an operator over two literals with a result that is kept, or a
conditional on a truth value. Folding leaves a formula as it is, and says so, exactly if none of
its nodes can be folded, and no such node is left behind. Operands without a result stay. -/
namespace PassTuner.Formula

/-- A node that is folded away, whatever stands around it. -/
inductive Foldable : Formula → Prop
  | arithmetic {type : ValueType} {op : ArithOp} {a b value : Value}
      (applied : op.apply a b = .ok value) (finite : value.isNonFinite = false) :
      Foldable (.arithmetic type op (.literal a) (.literal b))
  | boolean {operandType : ValueType} {op : BoolOp} {a b value : Value}
      (applied : op.apply a b = .ok value) (finite : value.isNonFinite = false) :
      Foldable (.boolean operandType op (.literal a) (.literal b))
  | conditional {type : ValueType} {b : Bool} {whenTrue whenFalse : Formula} :
      Foldable (.conditional type (.literal (.bool b)) whenTrue whenFalse)

/-- No node can be folded. -/
def Normal (f : Formula) : Prop := f.Every fun node => ¬node.Foldable

variable {f lhs rhs condition whenTrue whenFalse : Formula} {type : ValueType}

theorem normalNode : f.Normal ↔ ¬f.Foldable ∧ ∀ child ∈ f.children, child.Normal := everyNode

theorem foldNone {apply : Value → Value → Except EvalError Value} : fold? apply lhs rhs = none ↔
    ∀ a b value, lhs = .literal a → rhs = .literal b → apply a b = .ok value →
      value.isNonFinite ≠ false := by
  constructor
  · rintro none a b value rfl rfl applied
    simpa [fold?, applied] using none
  · intro lost
    cases folded : fold? apply lhs rhs with
    | none => rfl
    | some value =>
      obtain ⟨a, b, left, right, applied, finite⟩ := foldedOperands folded
      exact absurd finite (lost a b value left right applied)

theorem arithmeticFoldable {op : ArithOp} :
    ¬(arithmetic type op lhs rhs).Foldable ↔ fold? op.apply lhs rhs = none := by
  rw [foldNone]
  constructor
  · rintro stays a b value rfl rfl applied finite
    exact stays (.arithmetic applied finite)
  · rintro lost (⟨applied, finite⟩)
    exact lost _ _ _ rfl rfl applied finite

theorem booleanFoldable {op : BoolOp} :
    ¬(boolean type op lhs rhs).Foldable ↔ fold? op.apply lhs rhs = none := by
  rw [foldNone]
  constructor
  · rintro stays a b value rfl rfl applied finite
    exact stays (.boolean applied finite)
  · rintro lost (_ | ⟨applied, finite⟩)
    exact lost _ _ _ rfl rfl applied finite

theorem conditionalFoldable : ¬(conditional type condition whenTrue whenFalse).Foldable ↔
    ∀ b, condition ≠ .literal (.bool b) := by
  constructor
  · rintro stays b rfl
    exact stays .conditional
  · rintro other (_ | _ | _)
    exact other _ rfl

/-! Both kinds of operators treat their operands alike. -/

/-- What becomes of an operator, by what has become of its operands. -/
def combined (node : Formula → Formula → Formula) (apply : Value → Value → Except EvalError Value)
    (l r : Formula × Bool) : Formula × Bool :=
  match fold? apply l.1 r.1 with
  | some value => (.literal value, true)
  | none => (node l.1 r.1, l.2 || r.2)

section Operators

variable {node : Formula → Formula → Formula} {apply : Value → Value → Except EvalError Value}
variable {l r : Formula × Bool}

theorem arithmeticCombined (type : ValueType) (op : ArithOp) (lhs rhs : Formula) :
    (arithmetic type op lhs rhs).simplify =
      combined (arithmetic type op) op.apply lhs.simplify rhs.simplify := rfl

theorem booleanCombined (type : ValueType) (op : BoolOp) (lhs rhs : Formula) :
    (boolean type op lhs rhs).simplify =
      combined (boolean type op) op.apply lhs.simplify rhs.simplify := rfl

theorem combinedUnchanged : (combined node apply l r).2 = false ↔
    l.2 = false ∧ r.2 = false ∧ fold? apply l.1 r.1 = none := by
  rw [combined]
  cases fold? apply l.1 r.1 <;> simp

theorem combinedSame (unchanged : (combined node apply l r).2 = false)
    (left : l.2 = false → l.1 = lhs) (right : r.2 = false → r.1 = rhs) :
    (combined node apply l r).1 = node lhs rhs := by
  obtain ⟨leftUnchanged, rightUnchanged, none⟩ := combinedUnchanged.mp unchanged
  rw [combined, none]
  dsimp only
  rw [left leftUnchanged, right rightUnchanged]

end Operators

theorem conditionalTaken {b : Bool} (taken : condition.simplified = .literal (.bool b)) :
    (conditional type condition whenTrue whenFalse).simplify =
      ((if b then whenTrue else whenFalse).simplified, true) := by
  rw [simplify]
  split
  · rename_i same
    rw [simplified, same] at taken
    cases taken
    rfl
  · rename_i same
    rw [simplified, same] at taken
    cases taken
    rfl
  · rename_i notTrue notFalse same
    rw [simplified, same] at taken
    cases b with
    | true => exact absurd taken notTrue
    | false => exact absurd taken notFalse

theorem conditionalKept (other : ∀ b, condition.simplified ≠ .literal (.bool b)) :
    (conditional type condition whenTrue whenFalse).simplify =
      (conditional type condition.simplified whenTrue.simplified whenFalse.simplified,
        condition.simplify.2 || whenTrue.simplify.2 || whenFalse.simplify.2) := by
  rw [simplify]
  split
  · rename_i same
    exact absurd (congrArg Prod.fst same) (other true)
  · rename_i same
    exact absurd (congrArg Prod.fst same) (other false)
  · rename_i same
    rw [simplified, same]
    rfl

theorem conditionalUnchanged :
    (conditional type condition whenTrue whenFalse).simplify.2 = false ↔
      (∀ b, condition.simplified ≠ .literal (.bool b)) ∧ condition.simplify.2 = false ∧
        whenTrue.simplify.2 = false ∧ whenFalse.simplify.2 = false := by
  constructor
  · intro unchanged
    have other : ∀ b, condition.simplified ≠ .literal (.bool b) := by
      intro b taken
      rw [conditionalTaken taken] at unchanged
      contradiction
    rw [conditionalKept other] at unchanged
    simpa [other, and_assoc] using unchanged
  · rintro ⟨other, test, onTrue, onFalse⟩
    rw [conditionalKept other, test, onTrue, onFalse]
    rfl

theorem unchangedSame (unchanged : f.simplify.2 = false) : f.simplified = f := by
  induction f with
  | literal value => rfl
  | feature type ref => rfl
  | arithmetic type op lhs rhs left right => exact combinedSame unchanged left right
  | boolean operandType op lhs rhs left right => exact combinedSame unchanged left right
  | conditional type condition whenTrue whenFalse test onTrue onFalse =>
    obtain ⟨other, testStays, trueStays, falseStays⟩ := conditionalUnchanged.mp unchanged
    rw [simplified, conditionalKept other, test testStays, onTrue trueStays, onFalse falseStays]

theorem operandsUnchanged {node : Formula → Formula → Formula}
    {apply : Value → Value → Except EvalError Value} :
    (combined node apply lhs.simplify rhs.simplify).2 = false ↔
      fold? apply lhs rhs = none ∧ lhs.simplify.2 = false ∧ rhs.simplify.2 = false := by
  rw [combinedUnchanged, ← and_assoc, and_comm]
  refine and_congr_left ?_
  rintro ⟨left, right⟩
  rw [← simplified, ← simplified, unchangedSame left, unchangedSame right]

/-- Folding tells that nothing was changed exactly if no node can be folded. -/
theorem unchangedNormal : f.simplify.2 = false ↔ f.Normal := by
  induction f with
  | literal value => exact iff_of_true rfl ((everyLeaf (by rfl)).mpr (by rintro ⟨⟩))
  | feature type ref => exact iff_of_true rfl ((everyLeaf (by rfl)).mpr (by rintro ⟨⟩))
  | arithmetic type op lhs rhs left right =>
    rw [normalNode, arithmeticFoldable, children, List.forall_mem_cons, List.forall_mem_singleton,
      arithmeticCombined, operandsUnchanged, left, right]
  | boolean operandType op lhs rhs left right =>
    rw [normalNode, booleanFoldable, children, List.forall_mem_cons, List.forall_mem_singleton,
      booleanCombined, operandsUnchanged, left, right]
  | conditional type condition whenTrue whenFalse test onTrue onFalse =>
    rw [normalNode, conditionalFoldable, children, List.forall_mem_cons, List.forall_mem_cons,
      List.forall_mem_singleton, conditionalUnchanged, ← test, ← onTrue, ← onFalse]
    refine and_congr_left ?_
    rintro ⟨testStays, _⟩
    rw [unchangedSame testStays]

instance (f : Formula) : Decidable f.Normal := decidable_of_iff _ unchangedNormal

/-- Folding leaves no node that can be folded, so that there is nothing to do a second time, and
it tells whether there was one. -/
theorem simplifiedNormal (f : Formula) :
    f.simplified.Normal ∧ f.simplified.simplify = (f.simplified, false) ∧
      (f.simplify.2 = false ↔ f.Normal) := by
  have twice : f.simplified.simplify = (f.simplified, false) := simplifyTwice f
  exact ⟨unchangedNormal.mp (congrArg Prod.snd twice), twice, unchangedNormal⟩

/-- The branch that is taken has a division without a result, which is left for good. -/
example :
    let division : Formula := .arithmetic .int .div (.literal (.int 1)) (.literal (.int 0))
    let test : Formula := .boolean .int .lt (.literal (.int 0)) (.literal (.int 1))
    (conditional .int test division (.literal (.int 2))).simplify = (division, true) ∧
      division.Normal := by
  decide

end PassTuner.Formula

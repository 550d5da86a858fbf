import PassTuner.Proofs.Formula.Record
import PassTuner.Proofs.Formula.Soundness
import PassTuner.Proofs.Formula.Stringless

/-! Every way of making formulas keeps to the rules of the grammar.

What is drawn for a type has that type. A mutation and constant folding keep the type of a
well-typed formula, and leave it well-typed. This holds for all sources of features, also for one
whose count promises more features than it names, and for a mutation that fails halfway. -/
namespace PassTuner.Formula

variable {p : Double} {features : FeatureSource} {grammar : Grammar} {depth room : Nat}
variable {type : ValueType} {f : Formula} {random rest : Random}

section Drawing

theorem drawValueTyped {value : Value}
    (ran : (drawValue grammar type).run.run random = (.ok value, rest)) : value.type = type := by
  cases type with
  | int =>
    obtain ⟨_, _, _, ran⟩ := Gen.bindOk ran
    cases ran
    exact (rfl : ValueType.int = .int)
  | float =>
    obtain ⟨_, _, _, ran⟩ := Gen.bindOk ran
    cases ran
    exact (rfl : ValueType.float = .float)
  | bool =>
    obtain ⟨_, _, _, ran⟩ := Gen.bindOk ran
    cases ran
    exact (rfl : ValueType.bool = .bool)
  | string => cases ran

theorem drawFeatureTyped (ran : (drawFeature features type).run.run random = (.ok f, rest)) :
    f.HasType type := by
  obtain ⟨index, _, _, ran⟩ := Gen.bindOk ran
  split at ran
  · cases ran
    exact ⟨trivial, rfl⟩
  · cases ran

theorem drawLeafTyped {kind : FormulaKind}
    (ran : (drawLeaf features grammar type kind).run.run random = (.ok f, rest)) :
    f.HasType type := by
  by_cases feature : kind = .feature
  · subst feature
    exact drawFeatureTyped ran
  · have literal : drawLeaf features grammar type kind =
        (drawValue grammar type >>= fun value => pure (.literal value)) := by
      cases kind <;> first | contradiction | rfl
    rw [literal] at ran
    obtain ⟨value, _, drawn, ran⟩ := Gen.bindOk ran
    cases ran
    exact ⟨trivial, drawValueTyped drawn⟩

theorem drawnAllowed {leavesOnly : Bool} {kind : FormulaKind}
    (ran : (FormulaKind.draw features type leavesOnly).run.run random = (.ok kind, rest)) :
    kind ∈ FormulaKind.allowed features type leavesOnly := by
  by_cases text : type = .string
  · rw [FormulaKind.draw, if_pos text] at ran
    cases ran
  · have yields : (FormulaKind.draw features type leavesOnly).Yields
        (· ∈ FormulaKind.allowed features type leavesOnly) := FormulaKind.drawYields leavesOnly text
    obtain ⟨drawn, _, ok, allowed⟩ := yields random
    cases ok.symm.trans ran
    exact allowed

theorem checkedOk {result : Except FormulaError Formula}
    (ran : (generateWithin.liftExcept result).run.run random = (.ok f, rest)) : result = .ok f :=
  congrArg Prod.fst ran

theorem generateTyped
    (ran : (generateWithin features grammar room type).run.run random = (.ok f, rest)) :
    f.HasType type := by
  induction room generalizing type random rest f with
  | zero =>
    obtain ⟨kind, _, _, ran⟩ := Gen.bindOk ran
    exact drawLeafTyped ran
  | succ room ih =>
    obtain ⟨kind, moved, drawn, ran⟩ := Gen.bindOk ran
    cases kind with
    | literal => exact drawLeafTyped ran
    | feature => exact drawLeafTyped ran
    | arithmetic =>
      obtain ⟨op, _, _, ran⟩ := Gen.bindOk ran
      obtain ⟨lhs, _, left, ran⟩ := Gen.bindOk ran
      obtain ⟨rhs, _, right, ran⟩ := Gen.bindOk ran
      obtain ⟨same, numeric, rfl⟩ := arithmeticOk.mp (checkedOk ran)
      obtain ⟨lhsTyped, lhsType⟩ := ih left
      exact ⟨⟨rfl, same.symm, numeric, lhsTyped, (ih right).1⟩, lhsType⟩
    | boolean =>
      obtain ⟨choice, _, _, ran⟩ := Gen.bindOk ran
      obtain ⟨op, _, _, ran⟩ := Gen.bindOk ran
      obtain ⟨lhs, _, left, ran⟩ := Gen.bindOk ran
      obtain ⟨rhs, _, right, ran⟩ := Gen.bindOk ran
      obtain ⟨same, defined, rfl⟩ := booleanOk.mp (checkedOk ran)
      exact ⟨⟨rfl, same.symm, defined, (ih left).1, (ih right).1⟩,
        (FormulaKind.allowedBoolean (drawnAllowed drawn)).symm⟩
    | conditional =>
      obtain ⟨condition, _, test, ran⟩ := Gen.bindOk ran
      obtain ⟨whenTrue, _, onTrue, ran⟩ := Gen.bindOk ran
      obtain ⟨whenFalse, _, onFalse, ran⟩ := Gen.bindOk ran
      obtain ⟨conditionType, same, rfl⟩ := conditionalOk.mp (checkedOk ran)
      obtain ⟨trueTyped, trueType⟩ := ih onTrue
      exact ⟨⟨conditionType, rfl, same.symm, (ih test).1, trueTyped, (ih onFalse).1⟩, trueType⟩

end Drawing

section Mutation

theorem WellTyped.child (wellTyped : f.WellTyped) : ∀ child ∈ f.children, child.WellTyped := by
  cases f <;> simp_all [children, WellTyped]

theorem WellTyped.withChild (wellTyped : f.WellTyped) {index : Nat} {child other : Formula}
    (found : f.children[index]? = some child) (fits : other.HasType child.type) :
    (f.withChild index other).WellTyped := by
  obtain ⟨otherTyped, otherType⟩ := fits
  cases f with
  | literal value => contradiction
  | feature type ref => contradiction
  | arithmetic type op lhs rhs =>
    obtain ⟨lhsType, rhsType, numeric, lhsTyped, rhsTyped⟩ := wellTyped
    match index, found with
    | 0, rfl => exact ⟨otherType.trans lhsType, rhsType, numeric, otherTyped, rhsTyped⟩
    | 1, rfl => exact ⟨lhsType, otherType.trans rhsType, numeric, lhsTyped, otherTyped⟩
  | boolean operandType op lhs rhs =>
    obtain ⟨lhsType, rhsType, defined, lhsTyped, rhsTyped⟩ := wellTyped
    match index, found with
    | 0, rfl => exact ⟨otherType.trans lhsType, rhsType, defined, otherTyped, rhsTyped⟩
    | 1, rfl => exact ⟨lhsType, otherType.trans rhsType, defined, lhsTyped, otherTyped⟩
  | conditional type condition whenTrue whenFalse =>
    obtain ⟨conditionType, trueType, falseType, conditionTyped, trueTyped, falseTyped⟩ := wellTyped
    match index, found with
    | 0, rfl =>
      exact ⟨otherType.trans conditionType, trueType, falseType, otherTyped, trueTyped, falseTyped⟩
    | 1, rfl =>
      exact ⟨conditionType, otherType.trans trueType, falseType, conditionTyped, otherTyped,
        falseTyped⟩
    | 2, rfl =>
      exact ⟨conditionType, trueType, otherType.trans falseType, conditionTyped, trueTyped,
        otherTyped⟩

theorem regrowTyped (wellTyped : f.WellTyped) (random : Random) :
    ((bare (regrow features grammar depth f)).run random).1.1.HasType f.type := by
  rw [regrow, bareBind, bareLift]
  rcases drawn : (generateAt features grammar f.type depth).run.run random with ⟨_ | fresh, moved⟩
  · exact ⟨wellTyped, rfl⟩
  · exact generateTyped drawn

/-- What a mutation leaves has the type it found, whether or not it went well. -/
theorem mutateTyped (wellTyped : f.WellTyped) (random : Random) :
    ((mutate p features grammar depth f).run random).1.1.HasType f.type := by
  induction f using childInduction generalizing depth random with
  | step f ih =>
    rcases Nat.eq_zero_or_pos f.children.length with leaf | interior
    · cases f with
      | literal value =>
        rw [mutate, evolve, bareBind]
        exact ⟨trivial, mutateValueType value random⟩
      | feature type ref =>
        rw [mutate, evolve, bareBind]
        exact ⟨trivial, rfl⟩
      | _ => contradiction
    · obtain ⟨index, afresh, moved, child, _, found, through⟩ :=
        @mutateNode p features grammar depth f interior random
      have mem := List.mem_of_getElem? found
      have childTyped := wellTyped.child child mem
      have settled : ((settle p features grammar (depth + 1) afresh child).run
          moved).1.1.HasType child.type := by
        rw [settle]
        split
        · exact regrowTyped childTyped moved
        · exact ih child mem childTyped moved
      rw [through]
      exact ⟨wellTyped.withChild found settled, withChildType f index _⟩

end Mutation

section Folding

variable {apply : Value → Value → Except EvalError Value} {lhs rhs : Formula} {value : Value}

theorem foldArithmetic {op : ArithOp} (left : lhs.HasType type) (right : rhs.HasType type)
    (numeric : type.isNumeric) (folded : fold? op.apply lhs rhs = some value) :
    value.type = type := by
  obtain ⟨a, b, rfl, rfl, applied, _⟩ := foldedOperands folded
  rcases op.applyNumeric left.2 right.2 numeric with ⟨result, ok, typed⟩ | failed | failed
  · cases ok.symm.trans applied
    exact typed
  · cases failed.symm.trans applied
  · cases failed.symm.trans applied

theorem foldBoolean {op : BoolOp} (left : lhs.HasType type) (right : rhs.HasType type)
    (defined : op.isDefinedFor type) (folded : fold? op.apply lhs rhs = some value) :
    value.type = .bool := by
  obtain ⟨a, b, rfl, rfl, applied, _⟩ := foldedOperands folded
  obtain ⟨result, ok⟩ := BoolOp.applyDefined left.2 right.2 defined
  cases ok.symm.trans applied
  rfl

theorem simplifiedTyped (wellTyped : f.WellTyped) : f.simplified.HasType f.type := by
  induction f with
  | literal value => exact ⟨trivial, rfl⟩
  | feature type ref => exact ⟨trivial, rfl⟩
  | arithmetic type op lhs rhs left right =>
    obtain ⟨lhsType, rhsType, numeric, lhsTyped, rhsTyped⟩ := wellTyped
    have left : lhs.simplified.HasType type := lhsType ▸ left lhsTyped
    have right : rhs.simplified.HasType type := rhsType ▸ right rhsTyped
    simp only [simplified, simplify] at left right ⊢
    split
    · rename_i value folded
      exact ⟨trivial, foldArithmetic left right numeric folded⟩
    · exact ⟨⟨left.2, right.2, numeric, left.1, right.1⟩, rfl⟩
  | boolean operandType op lhs rhs left right =>
    obtain ⟨lhsType, rhsType, defined, lhsTyped, rhsTyped⟩ := wellTyped
    have left : lhs.simplified.HasType operandType := lhsType ▸ left lhsTyped
    have right : rhs.simplified.HasType operandType := rhsType ▸ right rhsTyped
    simp only [simplified, simplify] at left right ⊢
    split
    · rename_i value folded
      exact ⟨trivial, foldBoolean left right defined folded⟩
    · exact ⟨⟨left.2, right.2, defined, left.1, right.1⟩, rfl⟩
  | conditional type condition whenTrue whenFalse test onTrue onFalse =>
    obtain ⟨conditionType, trueType, falseType, conditionTyped, trueTyped, falseTyped⟩ := wellTyped
    have test : condition.simplified.HasType .bool := conditionType ▸ test conditionTyped
    have onTrue : whenTrue.simplified.HasType type := trueType ▸ onTrue trueTyped
    have onFalse : whenFalse.simplified.HasType type := falseType ▸ onFalse falseTyped
    simp only [simplified, simplify] at test onTrue onFalse ⊢
    split
    · exact onTrue
    · exact onFalse
    · rename_i kept
      rw [kept] at test
      exact ⟨⟨test.2, onTrue.2, onFalse.2, test.1, onTrue.1, onFalse.1⟩, rfl⟩

theorem HasType.simplified (typed : f.HasType type) : f.simplified.HasType type :=
  typed.2 ▸ simplifiedTyped typed.1

end Folding

theorem hereditaryTyped : Hereditary p features grammar WellTyped := by
  constructor
  · intro type f random rest ran
    exact (generateTyped ran).simplified.1
  · intro f changed random rest wellTyped ran
    have kept : ((mutate p features grammar 0 f).run random).1.1.HasType f.type :=
      mutateTyped wellTyped random
    rw [ran] at kept
    exact kept.simplified.1

end PassTuner.Formula

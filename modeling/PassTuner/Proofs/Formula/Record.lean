import PassTuner.Formula.Record
import PassTuner.Proofs.Checked

/-! Formula records and well-typed formulas.

Every well-typed formula has one record, and a record is accepted exactly if it is the record of a
well-typed formula. Both types of a boolean record are checked, so none of them can stray from the
formula that is rebuilt. -/
namespace PassTuner

/-- The type that a record declares for its node. -/
def FormulaRecord.declared : FormulaRecord → ValueType
  | .literal declared _ => declared
  | .arithmetic declared _ _ _ => declared
  | .boolean declared _ _ _ _ => declared
  | .conditional declared _ _ _ => declared
  | .feature declared _ => declared

/-- Whether the declared types of a record keep the rules of the grammar at every depth. -/
def FormulaRecord.WellTyped : FormulaRecord → Prop
  | .literal declared value => value.type = declared
  | .arithmetic declared _ lhs rhs =>
    lhs.declared = declared ∧ rhs.declared = declared ∧ declared.isNumeric ∧
      lhs.WellTyped ∧ rhs.WellTyped
  | .boolean declared operandType op lhs rhs =>
    declared = .bool ∧ lhs.declared = operandType ∧ rhs.declared = operandType ∧
      op.isDefinedFor operandType ∧ lhs.WellTyped ∧ rhs.WellTyped
  | .conditional declared condition whenTrue whenFalse =>
    condition.declared = .bool ∧ whenTrue.declared = declared ∧ whenFalse.declared = declared ∧
      condition.WellTyped ∧ whenTrue.WellTyped ∧ whenFalse.WellTyped
  | .feature _ _ => True

namespace Formula

/-- A formula that keeps the rules of the grammar and has the type. -/
def HasType (f : Formula) (type : ValueType) : Prop := f.WellTyped ∧ f.type = type

instance (f : Formula) (type : ValueType) : Decidable (f.HasType type) :=
  inferInstanceAs (Decidable (_ ∧ _))

theorem declaredAsOk {declared : ValueType} {f g : Formula} :
    f.declaredAs declared = .ok g ↔ f.type = declared ∧ f = g := by
  rw [declaredAs]
  split
  · rename_i same
    exact ⟨fun ok => ⟨same, Except.ok.inj ok⟩, fun ⟨_, same⟩ => congrArg _ same⟩
  · rename_i apart
    exact ⟨nofun, fun ⟨same, _⟩ => absurd same apart⟩

theorem arithmeticOk {op : ArithOp} {lhs rhs f : Formula} :
    arithmetic? op lhs rhs = .ok f ↔
      lhs.type = rhs.type ∧ lhs.type.isNumeric ∧ .arithmetic lhs.type op lhs rhs = f := by
  rw [arithmetic?]
  split
  · rename_i fits
    exact ⟨fun ok => ⟨fits.1, fits.2, Except.ok.inj ok⟩, fun ⟨_, _, same⟩ => congrArg _ same⟩
  · rename_i apart
    exact ⟨nofun, fun ⟨same, numeric, _⟩ => absurd ⟨same, numeric⟩ apart⟩

theorem booleanOk {op : BoolOp} {lhs rhs f : Formula} :
    boolean? op lhs rhs = .ok f ↔
      lhs.type = rhs.type ∧ op.isDefinedFor lhs.type ∧ .boolean lhs.type op lhs rhs = f := by
  rw [boolean?]
  split
  · rename_i apart
    exact ⟨nofun, fun ⟨same, _⟩ => absurd same apart⟩
  · rename_i same
    split
    · rename_i defined
      exact ⟨fun ok => ⟨Decidable.of_not_not same, defined, Except.ok.inj ok⟩,
        fun ⟨_, _, same⟩ => congrArg _ same⟩
    · rename_i undefined
      exact ⟨nofun, fun ⟨_, defined, _⟩ => absurd defined undefined⟩

theorem conditionalOk {condition whenTrue whenFalse f : Formula} :
    conditional? condition whenTrue whenFalse = .ok f ↔
      condition.type = .bool ∧ whenTrue.type = whenFalse.type ∧
        .conditional whenTrue.type condition whenTrue whenFalse = f := by
  rw [conditional?]
  split
  · rename_i other
    exact ⟨nofun, fun ⟨bool, _⟩ => absurd bool other⟩
  · rename_i bool
    split
    · rename_i apart
      exact ⟨nofun, fun ⟨_, same, _⟩ => absurd same apart⟩
    · rename_i same
      exact ⟨fun ok => ⟨Decidable.of_not_not bool, Decidable.of_not_not same, Except.ok.inj ok⟩,
        fun ⟨_, _, same⟩ => congrArg _ same⟩

theorem recordDeclared (f : Formula) : f.toRecord.declared = f.type := by
  cases f <;> rfl

theorem recordWellTyped {f : Formula} (wellTyped : f.WellTyped) : f.toRecord.WellTyped := by
  induction f with
  | literal value => rfl
  | feature type ref => trivial
  | arithmetic type op lhs rhs left right =>
    obtain ⟨lhsType, rhsType, numeric, lhsTyped, rhsTyped⟩ := wellTyped
    exact ⟨(recordDeclared lhs).trans lhsType, (recordDeclared rhs).trans rhsType, numeric,
      left lhsTyped, right rhsTyped⟩
  | boolean operandType op lhs rhs left right =>
    obtain ⟨lhsType, rhsType, defined, lhsTyped, rhsTyped⟩ := wellTyped
    exact ⟨rfl, (recordDeclared lhs).trans lhsType, (recordDeclared rhs).trans rhsType, defined,
      left lhsTyped, right rhsTyped⟩
  | conditional type condition whenTrue whenFalse test onTrue onFalse =>
    obtain ⟨conditionType, trueType, falseType, conditionTyped, trueTyped, falseTyped⟩ := wellTyped
    exact ⟨(recordDeclared condition).trans conditionType, (recordDeclared whenTrue).trans trueType,
      (recordDeclared whenFalse).trans falseType, test conditionTyped, onTrue trueTyped,
      onFalse falseTyped⟩

theorem ofRecordRecord {f : Formula} (wellTyped : f.WellTyped) : ofRecord f.toRecord = .ok f := by
  induction f with
  | literal value => exact if_pos rfl
  | feature type ref => rfl
  | arithmetic type op lhs rhs left right =>
    obtain ⟨lhsType, rhsType, numeric, lhsTyped, rhsTyped⟩ := wellTyped
    subst lhsType
    refine Checked.bindOk.mpr ⟨lhs, left lhsTyped, Checked.bindOk.mpr ⟨rhs, right rhsTyped, ?_⟩⟩
    refine Checked.bindOk.mpr ⟨_, arithmeticOk.mpr ⟨rhsType.symm, numeric, rfl⟩, ?_⟩
    exact declaredAsOk.mpr ⟨rfl, rfl⟩
  | boolean operandType op lhs rhs left right =>
    obtain ⟨lhsType, rhsType, defined, lhsTyped, rhsTyped⟩ := wellTyped
    subst lhsType
    refine Checked.bindOk.mpr ⟨lhs, left lhsTyped, Checked.bindOk.mpr ⟨rhs, right rhsTyped, ?_⟩⟩
    refine Checked.bindOk.mpr ⟨_, booleanOk.mpr ⟨rhsType.symm, defined, rfl⟩, ?_⟩
    rw [if_pos rfl]
    exact declaredAsOk.mpr ⟨rfl, rfl⟩
  | conditional type condition whenTrue whenFalse test onTrue onFalse =>
    obtain ⟨conditionType, trueType, falseType, conditionTyped, trueTyped, falseTyped⟩ := wellTyped
    subst trueType
    refine Checked.bindOk.mpr ⟨condition, test conditionTyped, ?_⟩
    refine Checked.bindOk.mpr ⟨whenTrue, onTrue trueTyped, ?_⟩
    refine Checked.bindOk.mpr ⟨whenFalse, onFalse falseTyped, ?_⟩
    refine Checked.bindOk.mpr ⟨_, conditionalOk.mpr ⟨conditionType, falseType.symm, rfl⟩, ?_⟩
    exact declaredAsOk.mpr ⟨rfl, rfl⟩

theorem ofRecordSource {r : FormulaRecord} {f : Formula} (ok : ofRecord r = .ok f) :
    f.WellTyped ∧ f.toRecord = r := by
  induction r generalizing f with
  | literal declared value =>
    rw [ofRecord] at ok
    split at ok <;> try contradiction
    rename_i same
    cases ok
    exact ⟨trivial, by rw [toRecord, same]⟩
  | feature declared ref =>
    cases ok
    exact ⟨trivial, rfl⟩
  | arithmetic declared op lhs rhs left right =>
    obtain ⟨a, leftOk, ok⟩ := Checked.bindOk.mp ok
    obtain ⟨b, rightOk, ok⟩ := Checked.bindOk.mp ok
    obtain ⟨node, built, ok⟩ := Checked.bindOk.mp ok
    obtain ⟨rfl, rfl⟩ := declaredAsOk.mp ok
    obtain ⟨same, numeric, rfl⟩ := arithmeticOk.mp built
    obtain ⟨lhsTyped, rfl⟩ := left leftOk
    obtain ⟨rhsTyped, rfl⟩ := right rightOk
    exact ⟨⟨rfl, same.symm, numeric, lhsTyped, rhsTyped⟩, rfl⟩
  | boolean declared operandType op lhs rhs left right =>
    obtain ⟨a, leftOk, ok⟩ := Checked.bindOk.mp ok
    obtain ⟨b, rightOk, ok⟩ := Checked.bindOk.mp ok
    obtain ⟨node, built, ok⟩ := Checked.bindOk.mp ok
    split at ok <;> try contradiction
    rename_i operand
    obtain ⟨rfl, rfl⟩ := declaredAsOk.mp ok
    obtain ⟨same, defined, rfl⟩ := booleanOk.mp built
    obtain ⟨lhsTyped, rfl⟩ := left leftOk
    obtain ⟨rhsTyped, rfl⟩ := right rightOk
    subst operand
    exact ⟨⟨rfl, same.symm, defined, lhsTyped, rhsTyped⟩, rfl⟩
  | conditional declared condition whenTrue whenFalse test onTrue onFalse =>
    obtain ⟨c, testOk, ok⟩ := Checked.bindOk.mp ok
    obtain ⟨a, trueOk, ok⟩ := Checked.bindOk.mp ok
    obtain ⟨b, falseOk, ok⟩ := Checked.bindOk.mp ok
    obtain ⟨node, built, ok⟩ := Checked.bindOk.mp ok
    obtain ⟨rfl, rfl⟩ := declaredAsOk.mp ok
    obtain ⟨conditionType, same, rfl⟩ := conditionalOk.mp built
    obtain ⟨conditionTyped, rfl⟩ := test testOk
    obtain ⟨trueTyped, rfl⟩ := onTrue trueOk
    obtain ⟨falseTyped, rfl⟩ := onFalse falseOk
    exact ⟨⟨conditionType, rfl, same.symm, conditionTyped, trueTyped, falseTyped⟩, rfl⟩

theorem recordOfWellTyped {r : FormulaRecord} (wellTyped : r.WellTyped) :
    ∃ f : Formula, f.WellTyped ∧ f.toRecord = r := by
  induction r with
  | literal declared value =>
    cases wellTyped
    exact ⟨.literal value, trivial, rfl⟩
  | feature declared ref => exact ⟨.feature declared ref, trivial, rfl⟩
  | arithmetic declared op lhs rhs left right =>
    obtain ⟨lhsType, rhsType, numeric, lhsTyped, rhsTyped⟩ := wellTyped
    obtain ⟨a, typedA, rfl⟩ := left lhsTyped
    obtain ⟨b, typedB, rfl⟩ := right rhsTyped
    rw [recordDeclared] at lhsType rhsType
    exact ⟨.arithmetic declared op a b, ⟨lhsType, rhsType, numeric, typedA, typedB⟩, rfl⟩
  | boolean declared operandType op lhs rhs left right =>
    obtain ⟨rfl, lhsType, rhsType, defined, lhsTyped, rhsTyped⟩ := wellTyped
    obtain ⟨a, typedA, rfl⟩ := left lhsTyped
    obtain ⟨b, typedB, rfl⟩ := right rhsTyped
    rw [recordDeclared] at lhsType rhsType
    exact ⟨.boolean operandType op a b, ⟨lhsType, rhsType, defined, typedA, typedB⟩, rfl⟩
  | conditional declared condition whenTrue whenFalse test onTrue onFalse =>
    obtain ⟨conditionType, trueType, falseType, conditionTyped, trueTyped, falseTyped⟩ := wellTyped
    obtain ⟨c, typedC, rfl⟩ := test conditionTyped
    obtain ⟨a, typedA, rfl⟩ := onTrue trueTyped
    obtain ⟨b, typedB, rfl⟩ := onFalse falseTyped
    rw [recordDeclared] at conditionType trueType falseType
    exact ⟨.conditional declared c a b,
      ⟨conditionType, trueType, falseType, typedC, typedA, typedB⟩, rfl⟩

theorem recordAccepted (r : FormulaRecord) :
    (∀ f, ofRecord r = .ok f ↔ f.WellTyped ∧ f.toRecord = r) ∧
      ((∃ f, ofRecord r = .ok f) ↔ r.WellTyped) := by
  have exact (f : Formula) : ofRecord r = .ok f ↔ f.WellTyped ∧ f.toRecord = r := by
    refine ⟨ofRecordSource, ?_⟩
    rintro ⟨wellTyped, rfl⟩
    exact ofRecordRecord wellTyped
  refine ⟨exact, ?_, fun wellTyped => ?_⟩
  · rintro ⟨f, ok⟩
    obtain ⟨wellTyped, rfl⟩ := (exact f).mp ok
    exact recordWellTyped wellTyped
  · obtain ⟨f, source⟩ := recordOfWellTyped wellTyped
    exact ⟨f, (exact f).mpr source⟩

end Formula

end PassTuner

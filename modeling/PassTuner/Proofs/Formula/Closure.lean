import Mathlib.Logic.Relation
import PassTuner.Proofs.Formula.Typing

/-! Formulas stay well-typed, whatever is done to them.

A formula begins with a checked constructor, a record or a draw. From there on it is folded and
mutated in place, where nothing is checked again; nevertheless each of its nodes keeps the rules of
the grammar, and the whole keeps the type that it was made for. -/
namespace PassTuner.Formula

/-- One change in place. A mutation counts with whatever it leaves, also if it fails. -/
inductive Alters : Formula → Formula → Prop
  | folds (f : Formula) : Alters f f.simplified
  | evolves (p : Double) (features : FeatureSource) (grammar : Grammar) (depth : Nat) (f : Formula)
      (random : Random) : Alters f ((mutate p features grammar depth f).run random).1.1

/-- The formulas that there are: made by checked constructors from such formulas, read from a
record, drawn from a grammar, or changed in place. -/
inductive Built : Formula → Prop
  | literal (value : Value) : Built (.literal value)
  | feature (type : ValueType) (ref : FeatureRef) : Built (.feature type ref)
  | arithmetic {op : ArithOp} {lhs rhs f : Formula} (left : Built lhs) (right : Built rhs)
      (ok : arithmetic? op lhs rhs = .ok f) : Built f
  | boolean {op : BoolOp} {lhs rhs f : Formula} (left : Built lhs) (right : Built rhs)
      (ok : boolean? op lhs rhs = .ok f) : Built f
  | conditional {condition whenTrue whenFalse f : Formula} (test : Built condition)
      (onTrue : Built whenTrue) (onFalse : Built whenFalse)
      (ok : conditional? condition whenTrue whenFalse = .ok f) : Built f
  | read {r : FormulaRecord} {f : Formula} (ok : ofRecord r = .ok f) : Built f
  | drawn {features : FeatureSource} {grammar : Grammar} {type : ValueType} {depth : Nat}
      {f : Formula} {random rest : Random}
      (ran : (generateAt features grammar type depth).run.run random = (.ok f, rest)) : Built f
  | altered {f g : Formula} (built : Built f) (alters : Alters f g) : Built g

variable {f g : Formula} {type : ValueType}

theorem WellTyped.every (wellTyped : f.WellTyped) : f.Every WellTyped := by
  induction f using childInduction with
  | step f ih =>
    exact everyNode.mpr ⟨wellTyped, fun child mem => ih child mem (wellTyped.child child mem)⟩

theorem Alters.typed (alters : Alters f g) (typed : f.HasType type) : g.HasType type := by
  cases alters with
  | folds => exact typed.simplified
  | evolves p features grammar depth _ random => exact typed.2 ▸ mutateTyped typed.1 random

theorem altersTyped (run : Relation.ReflTransGen Alters f g) (typed : f.HasType type) :
    g.HasType type := by
  induction run with
  | refl => exact typed
  | tail _ last ih => exact last.typed ih

theorem Built.wellTyped (built : Built f) : f.WellTyped := by
  induction built with
  | literal value => trivial
  | feature type ref => trivial
  | arithmetic _ _ ok left right =>
    obtain ⟨same, numeric, rfl⟩ := arithmeticOk.mp ok
    exact ⟨rfl, same.symm, numeric, left, right⟩
  | boolean _ _ ok left right =>
    obtain ⟨same, defined, rfl⟩ := booleanOk.mp ok
    exact ⟨rfl, same.symm, defined, left, right⟩
  | conditional _ _ _ ok test onTrue onFalse =>
    obtain ⟨condition, same, rfl⟩ := conditionalOk.mp ok
    exact ⟨condition, rfl, same.symm, test, onTrue, onFalse⟩
  | read ok => exact (ofRecordSource ok).1
  | drawn ran => exact (generateTyped ran).1
  | altered _ alters ih => exact (alters.typed ⟨ih, rfl⟩).1

theorem builtTyped (built : Built f) (run : Relation.ReflTransGen Alters f g) :
    g.Every WellTyped ∧ g.type = f.type := by
  obtain ⟨wellTyped, type⟩ := altersTyped run ⟨built.wellTyped, rfl⟩
  exact ⟨wellTyped.every, type⟩

/-! A condition on two strings, whose mutation is refused, and afterwards one that draws another
branch. -/

def guarded : Formula :=
  .conditional .int
    (.boolean .string .eq (.feature .string ⟨"target", ""⟩) (.literal (.string "x")))
    (.arithmetic .int .div (.literal (.int 1)) (.literal (.int 0))) (.feature .int ⟨"size", ""⟩)

def mutateOften (seed : UInt64) (f : Formula) : Changed Formula :=
  ((mutate ⟨0x3fe0000000000000⟩ (FeatureSet.ofList [(⟨"size", ""⟩, .int 4)]) .default 2 f).run
    ⟨seed⟩).1

theorem guardedBuilt : Built guarded := by
  have test : Built (.boolean .string .eq (.feature .string ⟨"target", ""⟩)
      (.literal (.string "x"))) :=
    .boolean (.feature ..) (.literal _) (booleanOk.mpr ⟨by decide, by decide, rfl⟩)
  have onTrue : Built (.arithmetic .int .div (.literal (.int 1)) (.literal (.int 0))) :=
    .arithmetic (.literal (.int 1)) (.literal (.int 0)) (arithmeticOk.mpr ⟨rfl, rfl, rfl⟩)
  exact .conditional test onTrue (.feature .int ⟨"size", ""⟩) rfl

theorem builtTypedRefused : Built guarded ∧ (mutateOften 2 guarded).2.isOk = false ∧
    ∃ g, Relation.ReflTransGen Alters guarded g ∧
      g.children[2]? = some (.arithmetic .int .sub (.feature .int ⟨"size", ""⟩) (.literal (.int 6))) ∧
      g.Every WellTyped ∧ g.type = .int := by
  have refused : Alters guarded (mutateOften 2 guarded).1 := .evolves ..
  have drawn : Alters (mutateOften 2 guarded).1 (mutateOften 7 (mutateOften 2 guarded).1).1 :=
    .evolves ..
  have run := (Relation.ReflTransGen.single refused).tail drawn |>.tail (.folds _)
  exact ⟨guardedBuilt, by decide +kernel, _, run, by decide +kernel, builtTyped guardedBuilt run⟩

end PassTuner.Formula

import PassTuner.Candidate.Basic

/-! The orders of values, formulas and candidates are transitive, and turn around when their
operands are exchanged.

Orders are built from parts by `Ordering.then`. For trees the laws of the parts are known at the
children only, so `Chain` states transitivity for three elements at a time. Trees that compare
equal are the same node for node, and candidates that do have the same content. -/
namespace PassTuner
open Std

/-- How three elements compare: the first with the second, the second with the third, and the
first with the third. -/
structure Chain (ab bc ac : Ordering) : Prop where
  le : ab.isLE → bc.isLE → ac.isLE
  ltLe : ab = .lt → bc.isLE → ac = .lt
  leLt : ab.isLE → bc = .lt → ac = .lt

namespace Chain

variable {ab bc ac ab' bc' ac' : Ordering}

theorem ofCmp {α : Type} (cmp : α → α → Ordering) [TransCmp cmp] (a b c : α) :
    Chain (cmp a b) (cmp b c) (cmp a c) :=
  ⟨TransCmp.isLE_trans, TransCmp.lt_of_lt_of_isLE, TransCmp.lt_of_isLE_of_lt⟩

theorem settled (first : Chain ab bc ac) (left : (ab.then ab').isLE) (right : (bc.then bc').isLE) :
    ac = .lt ∨ ac.isLE ∧ (ab = .eq ∧ ab'.isLE) ∧ (bc = .eq ∧ bc'.isLE) := by
  have below := Ordering.isLE_left_of_isLE_then left
  have below' := Ordering.isLE_left_of_isLE_then right
  rcases Ordering.isLE_then_iff_or.mp left with lt | equal
  · exact .inl (first.ltLe lt below')
  · rcases Ordering.isLE_then_iff_or.mp right with lt | equal'
    · exact .inl (first.leLt below lt)
    · exact .inr ⟨first.le below below', equal, equal'⟩

theorem thenLt {o o' : Ordering} (le : o.isLE) (lt : o' = .lt) : o.then o' = .lt := by
  subst lt
  cases o <;> simp at le ⊢

theorem andThen (first : Chain ab bc ac) (second : ab = .eq → bc = .eq → Chain ab' bc' ac') :
    Chain (ab.then ab') (bc.then bc') (ac.then ac') := by
  -- each law: the first parts settle it, or all are equal and the law of the second parts applies
  constructor
  · intro left right
    rw [Ordering.isLE_then_iff_and]
    rcases first.settled left right with lt | ⟨le, ⟨eq, below⟩, eq', below'⟩
    · exact ⟨Ordering.isLE_of_eq_lt lt, .inl lt⟩
    · exact ⟨le, .inr ((second eq eq').le below below')⟩
  · intro left right
    rcases first.settled (Ordering.isLE_of_eq_lt left) right with lt | ⟨le, ⟨eq, _⟩, eq', below'⟩
    · exact Ordering.then_eq_lt.mpr (.inl lt)
    · rw [eq, Ordering.eq_then] at left
      exact thenLt le ((second eq eq').ltLe left below')
  · intro left right
    rcases first.settled left (Ordering.isLE_of_eq_lt right) with lt | ⟨le, ⟨eq, below⟩, eq', _⟩
    · exact Ordering.then_eq_lt.mpr (.inl lt)
    · rw [eq', Ordering.eq_then] at right
      exact thenLt le ((second eq eq').leLt below right)

theorem andThenCmp {α : Type} (cmp : α → α → Ordering) [TransCmp cmp] {a b c : α}
    (second : Chain ab' bc' ac') :
    Chain ((cmp a b).then ab') ((cmp b c).then bc') ((cmp a c).then ac') :=
  (ofCmp cmp a b c).andThen fun _ _ => second

theorem transCmp {α : Type} {cmp : α → α → Ordering} (swap : ∀ a b, cmp a b = (cmp b a).swap)
    (chain : ∀ a b c, Chain (cmp a b) (cmp b c) (cmp a c)) : TransCmp cmp where
  eq_swap := swap _ _
  isLE_trans := (chain _ _ _).le

end Chain

instance : TransCmp ValueType.order := inferInstanceAs (TransCmp (compareOn ValueType.tag))

instance : TransCmp Double.totalCompare := inferInstanceAs (TransCmp (compareOn Double.totalKey))

instance : TransCmp FeatureRef.order :=
  inferInstanceAs (TransCmp (compareLex (compareOn FeatureRef.name) (compareOn FeatureRef.sub)))

instance : TransCmp DecisionPoint.order := inferInstanceAs (TransCmp (compareOn DecisionPoint.name))

instance : LawfulEqCmp ValueType.order where
  eq_of_compare {a b} same := by
    have equal : a.tag = b.tag := LawfulEqOrd.eq_of_compare same
    cases a <;> cases b <;> first | rfl | contradiction

instance : LawfulEqCmp FeatureRef.order where
  eq_of_compare {a b} same := by
    obtain ⟨name, sub⟩ := Ordering.then_eq_eq.mp same
    obtain ⟨⟩ := a
    obtain ⟨⟩ := b
    cases LawfulEqOrd.eq_of_compare name
    cases LawfulEqOrd.eq_of_compare sub
    rfl

namespace Value

theorem orderByType (a b : Value) : a.order b = (a.type.order b.type).then (a.order b) := by
  cases a <;> cases b <;> rfl

theorem orderChain (a b c : Value) : Chain (a.order b) (b.order c) (a.order c) := by
  rw [orderByType a b, orderByType b c, orderByType a c]
  refine (Chain.ofCmp ValueType.order _ _ _).andThen fun ab bc => ?_
  -- equal types leave the four cases in which all three are of one constructor
  replace ab : a.type.tag = b.type.tag := LawfulEqOrd.eq_of_compare ab
  replace bc : b.type.tag = c.type.tag := LawfulEqOrd.eq_of_compare bc
  cases a <;> cases b <;> simp [type, ValueType.tag] at ab <;>
    cases c <;> simp [type, ValueType.tag] at bc
  case int i j k => exact Chain.ofCmp (compareOn Int64.toInt) i j k
  case float x y z => exact Chain.ofCmp Double.totalCompare x y z
  case bool a b c => exact Chain.ofCmp compare a b c
  case string a b c => exact Chain.ofCmp compare a b c

instance : TransCmp Value.order where
  eq_swap {a b} := by cases a <;> cases b <;> simp only [order] <;> exact OrientedCmp.eq_swap
  isLE_trans := (orderChain _ _ _).le

theorem sameType {a b : Value} (same : a.order b = .eq) : a.type = b.type := by
  rw [orderByType] at same
  exact LawfulEqCmp.eq_of_compare (Ordering.then_eq_eq.mp same).1

instance : LawfulEqCmp order where
  eq_of_compare {a b} same := by
    have type := sameType same
    cases a <;> cases b <;> simp only [Value.type, reduceCtorEq] at type
    case int i j => exact congrArg Value.int (Int64.toInt_inj.mp (LawfulEqOrd.eq_of_compare same))
    case float x y => exact congrArg Value.float (Double.totalCompareEq.mp same)
    case bool x y => exact congrArg Value.bool (LawfulEqOrd.eq_of_compare same)
    case string x y => exact congrArg Value.string (LawfulEqOrd.eq_of_compare same)

end Value

namespace Formula

def kindOrder : Formula → Formula → Ordering := compareOn fun f => f.kind.rank

instance : TransCmp kindOrder :=
  inferInstanceAs (TransCmp (compareOn fun f : Formula => f.kind.rank))

theorem kindThenOrder (a b : Formula) : (kindOrder a b).then (a.order b) = a.order b := by
  cases a <;> cases b <;> rfl

theorem sameKind {a b : Formula} (eq : kindOrder a b = .eq) : a.kind = b.kind := by
  have same : a.kind.rank = b.kind.rank := LawfulEqOrd.eq_of_compare eq
  cases ha : a.kind <;> cases hb : b.kind <;> simp [ha, hb, FormulaKind.rank] at same ⊢

theorem chainByKind {a b c : Formula}
    (same : a.kind = b.kind → b.kind = c.kind → Chain (a.order b) (b.order c) (a.order c)) :
    Chain (a.order b) (b.order c) (a.order c) := by
  have whole := (Chain.ofCmp kindOrder a b c).andThen fun ab bc => same (sameKind ab) (sameKind bc)
  rwa [kindThenOrder, kindThenOrder, kindThenOrder] at whole

theorem orderSwap (a b : Formula) : a.order b = (b.order a).swap := by
  induction a generalizing b with
  | literal value =>
    cases b with
    | literal other =>
      change value.order other = (other.order value).swap
      exact OrientedCmp.eq_swap
    | _ => rfl
  | feature type ref =>
    cases b with
    | feature type' ref' =>
      simp only [order, Ordering.swap_then]
      rw [← OrientedCmp.eq_swap, ← OrientedCmp.eq_swap]
    | _ => rfl
  | arithmetic type op lhs rhs left right =>
    cases b with
    | arithmetic type' op' lhs' rhs' =>
      simp only [order, Ordering.swap_then]
      rw [← OrientedCmp.eq_swap, ← left, ← right, ← OrientedCmp.eq_swap]
    | _ => rfl
  | boolean operandType op lhs rhs left right =>
    cases b with
    | boolean type' op' lhs' rhs' =>
      simp only [order, Ordering.swap_then]
      rw [← OrientedCmp.eq_swap, ← left, ← right, ← OrientedCmp.eq_swap]
    | _ => rfl
  | conditional type condition whenTrue whenFalse test onTrue onFalse =>
    cases b with
    | conditional type' condition' whenTrue' whenFalse' =>
      simp only [order, Ordering.swap_then]
      rw [← OrientedCmp.eq_swap, ← test, ← onTrue, ← onFalse]
    | _ => rfl

theorem orderChain (a b c : Formula) : Chain (a.order b) (b.order c) (a.order c) := by
  -- the induction is on the first formula alone: the other two are of its kind
  refine chainByKind fun ab bc => ?_
  induction a generalizing b c with
  | literal value =>
    cases b <;> simp only [kind, reduceCtorEq] at ab
    cases c <;> simp only [kind, reduceCtorEq] at bc
    exact Value.orderChain _ _ _
  | feature type ref =>
    cases b <;> simp only [kind, reduceCtorEq] at ab
    cases c <;> simp only [kind, reduceCtorEq] at bc
    exact .andThenCmp ValueType.order (.ofCmp FeatureRef.order _ _ _)
  | arithmetic type op lhs rhs left right =>
    cases b <;> simp only [kind, reduceCtorEq] at ab
    cases c <;> simp only [kind, reduceCtorEq] at bc
    refine .andThenCmp ValueType.order ?_
    refine Chain.andThen (chainByKind (left _ _)) fun _ _ => ?_
    refine Chain.andThen (chainByKind (right _ _)) fun _ _ => ?_
    exact .ofCmp (compareOn ArithOp.rank) _ _ _
  | boolean operandType op lhs rhs left right =>
    cases b <;> simp only [kind, reduceCtorEq] at ab
    cases c <;> simp only [kind, reduceCtorEq] at bc
    refine .andThenCmp ValueType.order ?_
    refine Chain.andThen (chainByKind (left _ _)) fun _ _ => ?_
    refine Chain.andThen (chainByKind (right _ _)) fun _ _ => ?_
    exact .ofCmp (compareOn BoolOp.rank) _ _ _
  | conditional type condition whenTrue whenFalse test onTrue onFalse =>
    cases b <;> simp only [kind, reduceCtorEq] at ab
    cases c <;> simp only [kind, reduceCtorEq] at bc
    refine .andThenCmp ValueType.order ?_
    refine Chain.andThen (chainByKind (test _ _)) fun _ _ => ?_
    refine Chain.andThen (chainByKind (onTrue _ _)) fun _ _ => ?_
    exact chainByKind (onFalse _ _)

instance : TransCmp Formula.order := Chain.transCmp orderSwap orderChain

theorem arithRankInjective {a b : ArithOp} (same : a.rank = b.rank) : a = b := by
  cases a <;> cases b <;> first | rfl | contradiction

theorem boolRankInjective {a b : BoolOp} (same : a.rank = b.rank) : a = b := by
  cases a <;> cases b <;> first | rfl | contradiction

theorem equalKind {a b : Formula} (same : a.order b = .eq) : a.kind = b.kind := by
  rw [← kindThenOrder] at same
  exact sameKind (Ordering.then_eq_eq.mp same).1

/-- Only a formula itself compares equal to it. -/
theorem orderEqual {a b : Formula} (same : a.order b = .eq) : a = b := by
  have kinds := equalKind same
  induction a generalizing b with
  | literal value =>
    cases b <;> simp only [kind, reduceCtorEq] at kinds
    exact congrArg literal (LawfulEqCmp.eq_of_compare same)
  | feature type ref =>
    cases b <;> simp only [kind, reduceCtorEq] at kinds
    obtain ⟨types, refs⟩ := Ordering.then_eq_eq.mp same
    rw [LawfulEqCmp.eq_of_compare types, LawfulEqCmp.eq_of_compare refs]
  | arithmetic type op lhs rhs left right =>
    cases b <;> simp only [kind, reduceCtorEq] at kinds
    obtain ⟨types, same⟩ := Ordering.then_eq_eq.mp same
    obtain ⟨lefts, same⟩ := Ordering.then_eq_eq.mp same
    obtain ⟨rights, ranks⟩ := Ordering.then_eq_eq.mp same
    rw [LawfulEqCmp.eq_of_compare types, left lefts (equalKind lefts),
      right rights (equalKind rights), arithRankInjective (LawfulEqOrd.eq_of_compare ranks)]
  | boolean operandType op lhs rhs left right =>
    cases b <;> simp only [kind, reduceCtorEq] at kinds
    obtain ⟨types, same⟩ := Ordering.then_eq_eq.mp same
    obtain ⟨lefts, same⟩ := Ordering.then_eq_eq.mp same
    obtain ⟨rights, ranks⟩ := Ordering.then_eq_eq.mp same
    rw [LawfulEqCmp.eq_of_compare types, left lefts (equalKind lefts),
      right rights (equalKind rights), boolRankInjective (LawfulEqOrd.eq_of_compare ranks)]
  | conditional type condition whenTrue whenFalse test onTrue onFalse =>
    cases b <;> simp only [kind, reduceCtorEq] at kinds
    obtain ⟨types, same⟩ := Ordering.then_eq_eq.mp same
    obtain ⟨tests, same⟩ := Ordering.then_eq_eq.mp same
    obtain ⟨trues, falses⟩ := Ordering.then_eq_eq.mp same
    rw [LawfulEqCmp.eq_of_compare types, test tests (equalKind tests),
      onTrue trues (equalKind trues), onFalse falses (equalKind falses)]

theorem orderStrict (a b c : Formula) :
    a.order b = (b.order a).swap ∧ (a.order b = .lt → b.order c = .lt → a.order c = .lt) ∧
      (a.order b = .eq ↔ a = b) := by
  refine ⟨orderSwap a b, TransCmp.lt_trans, orderEqual, ?_⟩
  rintro rfl
  exact ReflCmp.compare_self

/-- The two zeros are two formulas, and the negative one comes first. -/
theorem orderStrictZeros :
    let minus : Formula := .literal (.float ⟨0x8000000000000000⟩)
    let zero : Formula := .literal (.float .zero)
    let one : Formula := .literal (.float .one)
    minus.order zero = .lt ∧ zero.order one = .lt ∧ minus.order one = .lt ∧
      (minus.order zero = .eq ↔ minus = zero) := by
  intro minus zero one
  have below : minus.order zero = .lt := by decide
  have above : zero.order one = .lt := by decide
  obtain ⟨_, transitive, same⟩ := orderStrict minus zero one
  exact ⟨below, above, transitive below above, same⟩

end Formula

namespace Candidate

instance : TransCmp placeOrder :=
  inferInstanceAs (TransCmp (compareOn fun entry : Entry => entry.1.name))

theorem sameName {a b : Entry} (same : placeOrder a b = .eq) : a.1.name = b.1.name :=
  LawfulEqOrd.eq_of_compare same

instance : TransCmp entryOrder := by
  refine Chain.transCmp (fun a b => ?_) fun a b c => ?_
  · simp only [entryOrder, Ordering.swap_then]
    rw [← OrientedCmp.eq_swap, ← OrientedCmp.eq_swap]
  · exact .andThenCmp DecisionPoint.order (.ofCmp Formula.order _ _ _)

theorem entriesOrderLex : entriesOrder = List.compareLex entryOrder := by
  funext as bs
  induction as generalizing bs with
  | nil => cases bs <;> rfl
  | cons a as ih =>
    cases bs with
    | nil => rfl
    | cons b bs => rw [entriesOrder, List.compareLex_cons_cons, ih]

instance : TransCmp entriesOrder := entriesOrderLex ▸ inferInstance

instance : TransCmp Candidate.order := by
  refine Chain.transCmp (fun a b => ?_) fun a b c => ?_
  · simp only [order, Ordering.swap_then]
    rw [← OrientedCmp.eq_swap, ← OrientedCmp.eq_swap]
  · exact .andThenCmp (compareOn size) (.ofCmp entriesOrder _ _ _)

/-- All that the order of candidates looks at. -/
def content (c : Candidate) : List (String × Formula) :=
  c.entries.map fun entry => (entry.1.name, entry.2)

theorem entriesOrderSame {as bs : List Entry} :
    entriesOrder as bs = .eq ↔
      as.map (fun entry => (entry.1.name, entry.2)) =
        bs.map fun entry => (entry.1.name, entry.2) := by
  induction as generalizing bs with
  | nil => cases bs <;> simp [entriesOrder]
  | cons a as ih =>
    cases bs with
    | nil => simp [entriesOrder]
    | cons b bs =>
      have names : a.1.order b.1 = .eq ↔ a.1.name = b.1.name := LawfulEqOrd.compare_eq_iff_eq
      have formulas : a.2.order b.2 = .eq ↔ a.2 = b.2 :=
        ⟨Formula.orderEqual, fun same => same ▸ ReflCmp.compare_self⟩
      simp only [entriesOrder, entryOrder, Ordering.then_eq_eq, names, formulas, ih, List.map_cons,
        List.cons.injEq, Prod.mk.injEq]

theorem orderSame {a b : Candidate} : a.order b = .eq ↔ a.content = b.content := by
  rw [order, Ordering.then_eq_eq, entriesOrderSame]
  refine and_iff_right_of_imp fun same => ?_
  exact LawfulEqOrd.compare_eq_iff_eq.mpr (by simpa using congrArg List.length same)

theorem orderEntries {a b : Candidate} (same : a.entries = b.entries) : a.order b = .eq :=
  orderSame.mpr (congrArg (List.map _) same)

end Candidate

end PassTuner

import PassTuner.Formula.Evaluation
import PassTuner.Proofs.Formula.Nodes

/-! Where the evaluation of a formula fails.

`visited` lists the nodes in the order in which evaluation is done with them. The first of them
that fails does so by itself: its operands have values. Its error is that of the whole formula. -/
namespace PassTuner.Formula

variable {features : FeatureSource} {f node : Formula} {e : EvalError}

/- Operands from left to right and then the node; of two branches the one taken. -/
def visited (features : FeatureSource) : Formula → List Formula
  | .literal value => [.literal value]
  | .feature type ref => [.feature type ref]
  | .arithmetic type op lhs rhs =>
    lhs.visited features ++ (rhs.visited features ++ [.arithmetic type op lhs rhs])
  | .boolean operandType op lhs rhs =>
    lhs.visited features ++ (rhs.visited features ++ [.boolean operandType op lhs rhs])
  | .conditional type condition whenTrue whenFalse =>
    let branch := match condition.solve features with
      | .ok (.bool true) => whenTrue.visited features
      | .ok (.bool false) => whenFalse.visited features
      | _ => []
    condition.visited features ++ (branch ++ [.conditional type condition whenTrue whenFalse])

def fails (features : FeatureSource) (f : Formula) : Bool :=
  match f.solve features with
  | .ok _ => false
  | .error _ => true

def firstFailing (features : FeatureSource) (f : Formula) : Option Formula :=
  (f.visited features).find? (fails features)

theorem solveArithmetic {type op lhs rhs a b} (left : lhs.solve features = .ok a)
    (right : rhs.solve features = .ok b) :
    (arithmetic type op lhs rhs).solve features = op.apply a b := by
  simp [solve, left, right, Bind.bind, Except.bind]

theorem solveBoolean {type op lhs rhs a b} (left : lhs.solve features = .ok a)
    (right : rhs.solve features = .ok b) :
    (boolean type op lhs rhs).solve features = op.apply a b := by
  simp [solve, left, right, Bind.bind, Except.bind]

theorem solveConditional {type condition whenTrue whenFalse taken}
    (test : condition.solve features = .ok (.bool taken)) :
    (conditional type condition whenTrue whenFalse).solve features =
      if taken then whenTrue.solve features else whenFalse.solve features := by
  cases taken <;> simp [solve, test, Bind.bind, Except.bind]

theorem solveUnconditional {type condition whenTrue whenFalse value}
    (test : condition.solve features = .ok value) (other : value.type ≠ .bool) :
    (conditional type condition whenTrue whenFalse).solve features =
      .error (.typeMismatch "if" value.type .bool) := by
  cases value <;> simp_all [solve, Value.type, Bind.bind, Except.bind]

/- The errors of a node whose operands all have values. -/
inductive Raises (features : FeatureSource) : Formula → EvalError → Prop
  | lookup {type ref cause} (failed : features.lookup ref type = .error cause) :
      Raises features (.feature type ref) (.feature cause)
  | arithmetic {type op lhs rhs a b e} (left : lhs.solve features = .ok a)
      (right : rhs.solve features = .ok b) (failed : op.apply a b = .error e) :
      Raises features (.arithmetic type op lhs rhs) e
  | boolean {type op lhs rhs a b e} (left : lhs.solve features = .ok a)
      (right : rhs.solve features = .ok b) (failed : op.apply a b = .error e) :
      Raises features (.boolean type op lhs rhs) e
  | condition {type condition whenTrue whenFalse value}
      (test : condition.solve features = .ok value) (other : value.type ≠ .bool) :
      Raises features (.conditional type condition whenTrue whenFalse)
        (.typeMismatch "if" value.type .bool)

theorem Raises.solve (raises : Raises features f e) : f.solve features = .error e := by
  cases raises with
  | lookup failed => simp [Formula.solve, failed]
  | arithmetic left right failed => exact (solveArithmetic left right).trans failed
  | boolean left right failed => exact (solveBoolean left right).trans failed
  | condition test other => exact solveUnconditional test other

/- Where the nodes of a list stop the evaluation that has this result. -/
inductive Stops (features : FeatureSource) (nodes : List Formula) : Except EvalError Value → Prop
  | nowhere {v : Value} (none : nodes.find? (fails features) = none) : Stops features nodes (.ok v)
  | first {node : Formula} {e : EvalError} (first : nodes.find? (fails features) = some node)
      (raises : Raises features node e) : Stops features nodes (.error e)

namespace Stops

variable {nodes more : List Formula} {result : Except EvalError Value}

theorem bind {next : Value → Except EvalError Value} (here : Stops features nodes result)
    (later : ∀ v, result = .ok v → Stops features more (next v)) :
    Stops features (nodes ++ more) (result >>= next) := by
  cases here with
  | @nowhere v none =>
    have passed : (nodes ++ more).find? (fails features) = more.find? (fails features) := by
      simp [none]
    have there : Stops features more (next v) := later v rfl
    change Stops features (nodes ++ more) (next v)
    generalize next v = outcome at there ⊢
    cases there with
    | nowhere none => exact .nowhere (passed.trans none)
    | first first raises => exact .first (passed.trans first) raises
  | first first raises => exact .first (by simp [first]) raises

theorem root (solved : f.solve features = result)
    (own : ∀ e, result = .error e → Raises features f e) : Stops features [f] result := by
  cases result with
  | ok v => exact .nowhere (by simp [fails, solved])
  | error e => exact .first (by simp [fails, solved]) (own e rfl)

theorem last (here : Stops features nodes (f.solve features)) :
    Stops features (nodes ++ [f]) (f.solve features) := by
  have through := here.bind fun v solved => root solved (by simp)
  cases solved : f.solve features <;> rwa [solved] at through

end Stops

theorem visitStops (features : FeatureSource) (f : Formula) :
    Stops features (f.visited features) (f.solve features) := by
  induction f with
  | literal value => exact .root rfl (by simp [solve])
  | feature type ref =>
    refine .root rfl fun e failed => ?_
    unfold solve at failed
    cases found : features.lookup ref type with
    | ok value => simp [found] at failed
    | error cause =>
      simp only [found, Except.error.injEq] at failed
      exact failed ▸ .lookup found
  | arithmetic type op lhs rhs ihLeft ihRight =>
    refine ihLeft.bind fun a left => ihRight.bind fun b right => ?_
    exact .root (solveArithmetic left right) fun e failed => .arithmetic left right failed
  | boolean operandType op lhs rhs ihLeft ihRight =>
    refine ihLeft.bind fun a left => ihRight.bind fun b right => ?_
    exact .root (solveBoolean left right) fun e failed => .boolean left right failed
  | conditional type condition whenTrue whenFalse ihTest onTrue onFalse =>
    refine ihTest.bind fun value test => ?_
    simp only [test]
    cases value with
    | bool taken =>
      have branch : (conditional type condition whenTrue whenFalse).solve features =
          if taken then whenTrue.solve features else whenFalse.solve features :=
        solveConditional test
      -- the branch taken has the value of the whole, which is done right after it
      cases taken with
      | true =>
        rw [if_pos rfl] at branch
        rw [← branch] at onTrue ⊢
        exact onTrue.last
      | false =>
        rw [if_neg (by simp)] at branch
        rw [← branch] at onFalse ⊢
        exact onFalse.last
    | _ =>
      refine .root (solveUnconditional test (by simp [Value.type])) fun e same => ?_
      exact Except.error.inj same ▸ .condition test (by simp [Value.type])

theorem firstRaises (first : f.firstFailing features = some node) :
    ∃ e, f.solve features = .error e ∧ Raises features node e := by
  have stops := visitStops features f
  generalize f.solve features = result at stops ⊢
  cases stops with
  | nowhere none => cases none.symm.trans first
  | @first other e found raises =>
    cases first.symm.trans found
    exact ⟨e, rfl, raises⟩

/- A formula fails as the first of its nodes does that fails. -/
theorem failsFirst : f.solve features = .error e ↔
    ∃ node, f.firstFailing features = some node ∧ Raises features node e := by
  constructor
  · intro failed
    have stops := visitStops features f
    rw [failed] at stops
    cases stops with
    | first first raises => exact ⟨_, first, raises⟩
  · rintro ⟨node, first, raises⟩
    obtain ⟨other, failed, raised⟩ := firstRaises first
    cases raises.solve.symm.trans raised.solve
    exact failed

theorem visitedNodes (features : FeatureSource) (f : Formula) : f.visited features ⊆ f.nodes := by
  have root (f : Formula) : [f] ⊆ f.nodes := by simpa using selfNode f
  have below {parent child : Formula} (inside : child.visited features ⊆ child.nodes)
      (mem : child ∈ parent.children) : child.visited features ⊆ parent.nodes :=
    List.Subset.trans inside (childNodes mem)
  induction f with
  | literal value => exact root _
  | feature type ref => exact root _
  | arithmetic type op lhs rhs left right =>
    exact List.append_subset.mpr ⟨below left (by simp [children]),
      List.append_subset.mpr ⟨below right (by simp [children]), root _⟩⟩
  | boolean type op lhs rhs left right =>
    exact List.append_subset.mpr ⟨below left (by simp [children]),
      List.append_subset.mpr ⟨below right (by simp [children]), root _⟩⟩
  | conditional type condition whenTrue whenFalse test onTrue onFalse =>
    refine List.append_subset.mpr ⟨below test (by simp [children]),
      List.append_subset.mpr ⟨?_, root _⟩⟩
    split
    · exact below onTrue (by simp [children])
    · exact below onFalse (by simp [children])
    · exact List.nil_subset _

end PassTuner.Formula
